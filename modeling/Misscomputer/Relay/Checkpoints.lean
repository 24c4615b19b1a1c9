import Misscomputer.Contract.Parsing
import Misscomputer.Lib.HashChain
import Misscomputer.Lib.Offer
import Misscomputer.Relay.Contracts

set_option relaxedAutoImplicit false
set_option autoImplicit false

/-!
# The chain of accepted checkpoints

An external validator keeps what the last checkpoint it accepted said. A checkpoint is accepted when it is the first of
the chain, or names the last accepted one and does not go back from it. No checkpoint is accepted twice.

## Main definitions

* `Relay.advanceCheckpointChainState` — one offered checkpoint.
* `Relay.Follows` — what an accepted checkpoint keeps of an earlier one.
* `Relay.chainState`, `Relay.accepted` — the state after a run of offers, and the checkpoints it accepted.

## Main results

* `Relay.advance_eq_ok` — what an accepted offer says of the checkpoint and of the next state.
* `Relay.advance_rejecting` — a valid checkpoint is accepted or rejected; the next state is a value of its contract.
* `Relay.checkpoint_chain_agrees` — no equivocation, in any run, and the last digest determines all accepted
  checkpoints.

## Implementation notes

The network of a checkpoint, a policy and a state is one literal, so its comparison is not part of the model.

## References

* `src/misscomputer_subnet/score_checkpoint_relay.py` (`build_initial_checkpoint_chain_state`,
  `advance_checkpoint_chain_state`)
-/

namespace Misscomputer

namespace Relay

open Contract
open Except (reject)

/-! ## The first state -/

/-- The state of a chain of which nothing was accepted. -/
def initialState (policy : CheckpointTrustPolicy) : CheckpointChainState :=
  CheckpointChainState.sealed
    { centralAuthorityFingerprintSha256 := policy.centralAuthorityFingerprintSha256
      centralScoringPolicyDigestSha256 := policy.centralScoringPolicyDigestSha256
      trustPolicyDigestSha256 := policy.trustPolicyDigestSha256
      acceptedCheckpointCount := 0
      lastSequence := 0
      lastFinalizedHeight := none
      lastFinalizedBlockHash := none
      lastFinalizedEpoch := none
      lastIssuedAtEpoch := none
      lastEvaluationEpoch := none
      lastInputSnapshotDigestSha256 := none
      lastCanonicalScoreReportDigestSha256 := none
      lastReportScoreVectorDigestSha256 := none
      lastScoreVectorDigestSha256 := none
      lastCheckpointDigestSha256 := none
      stateDigestSha256 := "" }

/-- `build_initial_checkpoint_chain_state`. -/
def buildInitialCheckpointChainState (policy : CheckpointTrustPolicy) : Except RelayError CheckpointChainState := do
  revalidate CheckpointTrustPolicy.Valid policy
  revalidate CheckpointChainState.Valid (initialState policy)
  return initialState policy

/-! ## One offer -/

section Offers

variable (state : CheckpointChainState) (checkpoint : CentralScoreCheckpoint) (policy : CheckpointTrustPolicy)

/-- The state and the checkpoint are of one chain. -/
def verifyChain : Except RelayError Unit := do
  reject (state.centralAuthorityFingerprintSha256 ≠ checkpoint.centralAuthorityFingerprintSha256)
    (.rejected .authorityMismatch)
  reject (state.centralScoringPolicyDigestSha256 ≠ checkpoint.centralScoringPolicyDigestSha256)
    (.rejected .policyMismatch)
  reject (state.trustPolicyDigestSha256 ≠ checkpoint.trustPolicyDigestSha256) (.rejected .trustPolicyMismatch)

/-- The rules of the first checkpoint of a chain. -/
def verifyFirst : Except RelayError Unit := do
  reject (checkpoint.sequence ≠ 1) (.rejected .sequenceGap)
  reject (checkpoint.previousCheckpointDigestSha256 ≠ none) (.rejected .previousLinkMismatch)

/-- The rules of a checkpoint at the height of the last accepted one. -/
def verifySameHeight : Except RelayError Unit := do
  reject (some checkpoint.finalizedBlockHash ≠ state.lastFinalizedBlockHash) (.rejected .sameHeightFork)
  reject (some checkpoint.finalizedEpoch ≠ state.lastFinalizedEpoch ∨
    some checkpoint.inputSnapshotDigestSha256 ≠ state.lastInputSnapshotDigestSha256 ∨
    some checkpoint.canonicalScoreReportDigestSha256 ≠ state.lastCanonicalScoreReportDigestSha256 ∨
    some checkpoint.reportScoreVectorDigestSha256 ≠ state.lastReportScoreVectorDigestSha256 ∨
    some checkpoint.scoreVectorDigestSha256 ≠ state.lastScoreVectorDigestSha256) (.rejected .sameHeightDivergence)

/-- Why a checkpoint with the sequence number of the last accepted one is rejected. -/
def rejectSameSequence : Except RelayError Unit := do
  reject (some checkpoint.checkpointDigestSha256 = state.lastCheckpointDigestSha256) (.rejected .checkpointReplay)
  if some checkpoint.finalizedHeight = state.lastFinalizedHeight then verifySameHeight state checkpoint
  .error (.rejected .sequenceRollback)

/-- The rules of a checkpoint with another sequence number than the last accepted one. -/
def verifyNext : Except RelayError Unit := do
  reject (checkpoint.sequence < state.lastSequence) (.rejected .sequenceRollback)
  reject (checkpoint.sequence - state.lastSequence > policy.maxSequenceGap) (.rejected .sequenceGap)
  reject (checkpoint.previousCheckpointDigestSha256 ≠ state.lastCheckpointDigestSha256)
    (.rejected .previousLinkMismatch)
  let lastHeight := state.lastFinalizedHeight.getD 0
  let lastEpoch := state.lastFinalizedEpoch.getD 0
  let lastIssued := state.lastIssuedAtEpoch.getD 0
  let lastEvaluation := state.lastEvaluationEpoch.getD 0
  reject (checkpoint.finalizedHeight < lastHeight) (.rejected .finalizedHeightRollback)
  reject (checkpoint.finalizedEpoch < lastEpoch) (.rejected .finalizedEpochRollback)
  reject (checkpoint.finalizedHeight - lastHeight > policy.maxFinalizedHeightGap) (.rejected .finalizedHeightGap)
  reject (checkpoint.issuedAtEpoch < lastIssued ∨ checkpoint.evaluationEpoch < lastEvaluation)
    (.rejected .sequenceRollback)
  if checkpoint.finalizedHeight = lastHeight then verifySameHeight state checkpoint

/-- Whether the checkpoint may come after what was accepted. -/
def verifyPosition : Except RelayError Unit :=
  if state.acceptedCheckpointCount = 0 then verifyFirst checkpoint
  else if checkpoint.sequence = state.lastSequence then rejectSameSequence state checkpoint
  else verifyNext state checkpoint policy

/-- The state after a checkpoint. -/
def successor : CheckpointChainState :=
  CheckpointChainState.sealed
    { state with
      acceptedCheckpointCount := state.acceptedCheckpointCount + 1
      lastSequence := checkpoint.sequence
      lastFinalizedHeight := some checkpoint.finalizedHeight
      lastFinalizedBlockHash := some checkpoint.finalizedBlockHash
      lastFinalizedEpoch := some checkpoint.finalizedEpoch
      lastIssuedAtEpoch := some checkpoint.issuedAtEpoch
      lastEvaluationEpoch := some checkpoint.evaluationEpoch
      lastInputSnapshotDigestSha256 := some checkpoint.inputSnapshotDigestSha256
      lastCanonicalScoreReportDigestSha256 := some checkpoint.canonicalScoreReportDigestSha256
      lastReportScoreVectorDigestSha256 := some checkpoint.reportScoreVectorDigestSha256
      lastScoreVectorDigestSha256 := some checkpoint.scoreVectorDigestSha256
      lastCheckpointDigestSha256 := some checkpoint.checkpointDigestSha256 }

/-- `advance_checkpoint_chain_state`. -/
def advanceCheckpointChainState : Except RelayError CheckpointChainState := do
  revalidate CheckpointChainState.Valid state
  revalidate CentralScoreCheckpoint.Valid checkpoint
  revalidate CheckpointTrustPolicy.Valid policy
  verifyChain state checkpoint
  verifyPosition state checkpoint policy
  revalidate CheckpointChainState.Valid (successor state checkpoint)
  return successor state checkpoint

end Offers

/-! ## What an accepted offer says -/

section Outcomes

variable {state next : CheckpointChainState} {checkpoint : CentralScoreCheckpoint} {policy : CheckpointTrustPolicy}
  {u : Unit}

/-- **One offer.** An accepted checkpoint moves to the state after it. -/
theorem advance_eq_ok : advanceCheckpointChainState state checkpoint policy = .ok next ↔
    (state.Valid ∧ checkpoint.Valid ∧ policy.Valid) ∧ verifyChain state checkpoint = .ok () ∧
      verifyPosition state checkpoint policy = .ok () ∧ (successor state checkpoint).Valid ∧
      next = successor state checkpoint := by
  simp only [advanceCheckpointChainState, Except.bind_eq_ok, revalidate_eq_ok, exists_const]
  constructor
  · rintro ⟨hstate, hcheckpoint, hpolicy, _, hchain, _, hposition, hvalid, hnext⟩
    exact ⟨⟨hstate, hcheckpoint, hpolicy⟩, hchain, hposition, hvalid, (Except.ok.inj hnext).symm⟩
  · rintro ⟨⟨hstate, hcheckpoint, hpolicy⟩, hchain, hposition, hvalid, rfl⟩
    exact ⟨hstate, hcheckpoint, hpolicy, (), hchain, (), hposition, hvalid, rfl⟩

lemma verifyFirst_eq_ok : verifyFirst checkpoint = .ok u ↔
    checkpoint.sequence = 1 ∧ checkpoint.previousCheckpointDigestSha256 = none := by
  simp [verifyFirst, Except.bind_eq_ok]

/-- What the checkpoint and the state say of one height. -/
lemma verifySameHeight_eq_ok : verifySameHeight state checkpoint = .ok u ↔
    some checkpoint.finalizedBlockHash = state.lastFinalizedBlockHash ∧
      some checkpoint.finalizedEpoch = state.lastFinalizedEpoch ∧
      some checkpoint.inputSnapshotDigestSha256 = state.lastInputSnapshotDigestSha256 ∧
      some checkpoint.canonicalScoreReportDigestSha256 = state.lastCanonicalScoreReportDigestSha256 ∧
      some checkpoint.reportScoreVectorDigestSha256 = state.lastReportScoreVectorDigestSha256 ∧
      some checkpoint.scoreVectorDigestSha256 = state.lastScoreVectorDigestSha256 := by
  simp only [verifySameHeight, Except.bind_eq_ok, Except.reject_eq_ok, exists_const, not_or, ne_eq, not_not]

/-- A checkpoint with the sequence number of the last accepted one is rejected. -/
lemma rejectSameSequence_ne_ok : rejectSameSequence state checkpoint ≠ .ok u := by
  intro h
  obtain ⟨_, -, h⟩ := Except.bind_eq_ok.mp h
  split at h
  · obtain ⟨_, -, h⟩ := Except.bind_eq_ok.mp h
    cases h
  · cases h

/-- The rules of a checkpoint that comes after the last accepted one. -/
lemma verifyNext_eq_ok : verifyNext state checkpoint policy = .ok u ↔
    state.lastSequence ≤ checkpoint.sequence ∧ checkpoint.sequence - state.lastSequence ≤ policy.maxSequenceGap ∧
      checkpoint.previousCheckpointDigestSha256 = state.lastCheckpointDigestSha256 ∧
      state.lastFinalizedHeight.getD 0 ≤ checkpoint.finalizedHeight ∧
      state.lastFinalizedEpoch.getD 0 ≤ checkpoint.finalizedEpoch ∧
      checkpoint.finalizedHeight - state.lastFinalizedHeight.getD 0 ≤ policy.maxFinalizedHeightGap ∧
      (state.lastIssuedAtEpoch.getD 0 ≤ checkpoint.issuedAtEpoch ∧
        state.lastEvaluationEpoch.getD 0 ≤ checkpoint.evaluationEpoch) ∧
      (checkpoint.finalizedHeight = state.lastFinalizedHeight.getD 0 →
        verifySameHeight state checkpoint = .ok ()) := by
  have hheight : (if checkpoint.finalizedHeight = state.lastFinalizedHeight.getD 0 then
      verifySameHeight state checkpoint else pure PUnit.unit) = .ok u ↔
      (checkpoint.finalizedHeight = state.lastFinalizedHeight.getD 0 →
        verifySameHeight state checkpoint = .ok ()) := by
    split
    · rename_i heq
      exact ⟨fun h _ => h, fun h => h heq⟩
    · rename_i hne
      exact iff_of_true rfl fun heq => absurd heq hne
  simp only [verifyNext, Except.bind_eq_ok, Except.reject_eq_ok, exists_const, gt_iff_lt, not_lt, not_or, ne_eq,
    not_not, hheight]

/-- Where an accepted checkpoint stands. -/
lemma verifyPosition_eq_ok : verifyPosition state checkpoint policy = .ok u ↔
    (state.acceptedCheckpointCount = 0 ∧ verifyFirst checkpoint = .ok ()) ∨
      (state.acceptedCheckpointCount ≠ 0 ∧ checkpoint.sequence ≠ state.lastSequence ∧
        verifyNext state checkpoint policy = .ok ()) := by
  rw [verifyPosition]
  by_cases hcount : state.acceptedCheckpointCount = 0
  · simp [hcount]
  · by_cases hsequence : checkpoint.sequence = state.lastSequence
    · simp [hcount, hsequence, rejectSameSequence_ne_ok]
    · simp [hcount, hsequence]

/-- An offer of a checkpoint is accepted or rejected, whatever its position. -/
lemma verifyPosition_rejectsOnly :
    RejectsOnly (fun code => ¬ OfQuorum code) (verifyPosition state checkpoint policy) := by
  have hheight : RejectsOnly (fun code => ¬ OfQuorum code) (verifySameHeight state checkpoint) :=
    rejectsOnly_reject_bind (by decide) fun _ => rejectsOnly_reject (by decide)
  rw [verifyPosition]
  split
  · exact rejectsOnly_reject_bind (by decide) fun _ => rejectsOnly_reject (by decide)
  · split
    · refine rejectsOnly_reject_bind (by decide) fun _ => ?_
      split
      · exact hheight.bind fun _ _ => rejectsOnly_error (by decide)
      · exact rejectsOnly_error (by decide)
    · iterate 7 refine rejectsOnly_reject_bind (by decide) fun _ => ?_
      split
      · exact hheight
      · exact rejectsOnly_ok ()

end Outcomes

/-! ## The next state -/

section Successor

variable {state : CheckpointChainState} {checkpoint : CentralScoreCheckpoint} {policy : CheckpointTrustPolicy}

/-- The count of a valid state is no negative number and at most its sequence number. -/
lemma CheckpointChainState.Valid.count_bounds (h : state.Valid) :
    0 ≤ state.acceptedCheckpointCount ∧ state.acceptedCheckpointCount ≤ state.lastSequence := by
  obtain ⟨⟨-, -, -, hcount, -⟩, hfits, -⟩ := h
  simp only [count, Bool.and_eq_true, decide_eq_true_eq] at hcount
  refine ⟨hcount.1, ?_⟩
  rw [CheckpointChainState.Fits] at hfits
  split at hfits
  · rename_i hzero
    rw [hzero, hfits.1]
  · exact hfits.2.1

/-- **The next state is a value of its contract**, for the sequence number of an accepted checkpoint is larger than
the last one, which is at least the count. -/
lemma successor_valid (hstate : state.Valid) (hcheckpoint : checkpoint.Valid)
    (hposition : verifyPosition state checkpoint policy = .ok ()) : (successor state checkpoint).Valid := by
  obtain ⟨hnonneg, hle⟩ := hstate.count_bounds
  obtain ⟨⟨-, -, -, hheight, hhash, hepoch, hsnapshot, hreport, hvector, -, -, -, hscores, hsequence, hissued,
    hevaluation, -, -, hdigest⟩, -⟩ := hcheckpoint
  have hlt : state.acceptedCheckpointCount < checkpoint.sequence := by
    rcases verifyPosition_eq_ok.mp hposition with ⟨hzero, hfirst⟩ | ⟨-, hne, hnext⟩
    · rw [hzero, (verifyFirst_eq_ok.mp hfirst).1]
      decide
    · have := (verifyNext_eq_ok.mp hnext).1
      omega
  simp only [positiveCount, Bool.and_eq_true, decide_eq_true_eq] at hsequence
  have hcount : count (state.acceptedCheckpointCount + 1) = true := by
    simp only [count, Bool.and_eq_true, decide_eq_true_eq]
    omega
  have hsequence' : count checkpoint.sequence = true := by
    simp only [count, Bool.and_eq_true, decide_eq_true_eq]
    omega
  refine ⟨⟨hstate.1.1, hstate.1.2.1, hstate.1.2.2.1, hcount, hsequence', ?_, ?_, ?_, ?_, ?_, ?_, ?_, ?_, ?_, ?_,
    hex64_digest _⟩, ?_, CheckpointChainState.digest_sealed _⟩
  iterate 10
    · intro value hvalue
      obtain rfl := Option.some.inj hvalue
      assumption
  · have hne : (successor state checkpoint).acceptedCheckpointCount ≠ 0 := by
      change state.acceptedCheckpointCount + 1 ≠ 0
      omega
    rw [CheckpointChainState.Fits, if_neg hne]
    refine ⟨?_, ?_, by simp [CheckpointChainState.absences, successor, CheckpointChainState.sealed]⟩
    · change checkpoint.sequence ≠ 0
      omega
    · change state.acceptedCheckpointCount + 1 ≤ checkpoint.sequence
      omega

/-- A valid checkpoint is accepted or rejected, and not for a quorum. -/
lemma advance_rejectsOnly (hstate : state.Valid) (hcheckpoint : checkpoint.Valid) (hpolicy : policy.Valid) :
    RejectsOnly (fun code => ¬ OfQuorum code) (advanceCheckpointChainState state checkpoint policy) := by
  refine rejectsOnly_revalidate_bind hstate (rejectsOnly_revalidate_bind hcheckpoint
    (rejectsOnly_revalidate_bind hpolicy ?_))
  have hchain : RejectsOnly (fun code => ¬ OfQuorum code) (verifyChain state checkpoint) :=
    rejectsOnly_reject_bind (by decide) fun _ => rejectsOnly_reject_bind (by decide) fun _ =>
      rejectsOnly_reject (by decide)
  refine hchain.bind fun _ _ => verifyPosition_rejectsOnly.bind fun _ hposition => ?_
  exact rejectsOnly_revalidate_bind (successor_valid hstate hcheckpoint hposition) (rejectsOnly_ok _)

/-- **A valid checkpoint is accepted or rejected**: no contract fails on the way. -/
theorem advance_rejecting (hstate : state.Valid) (hcheckpoint : checkpoint.Valid) (hpolicy : policy.Valid) :
    Rejecting (advanceCheckpointChainState state checkpoint policy) :=
  (advance_rejectsOnly hstate hcheckpoint hpolicy).rejecting

/-- The initial state of a valid policy is a value of its contract. -/
lemma initialState_valid (h : policy.Valid) : (initialState policy).Valid := by
  obtain ⟨⟨hauthority, hscoring, hbounded⟩, -⟩ := h
  obtain ⟨-, -, -, -, -, -, -, -, -, -, -, -, -, hdigest⟩ := hbounded
  have hzero : count 0 = true := by decide
  refine ⟨⟨hauthority, hscoring, hdigest, hzero, hzero, nofun, nofun, nofun, nofun, nofun, nofun, nofun, nofun, nofun,
    nofun, hex64_digest _⟩, ?_, CheckpointChainState.digest_sealed _⟩
  have hcount : (initialState policy).acceptedCheckpointCount = 0 := rfl
  rw [CheckpointChainState.Fits, if_pos hcount]
  simp [initialState, CheckpointChainState.sealed, CheckpointChainState.absences]

/-- **Every policy has an initial state.** -/
theorem buildInitialCheckpointChainState_eq_ok :
    buildInitialCheckpointChainState policy = .ok state ↔ policy.Valid ∧ state = initialState policy := by
  simp only [buildInitialCheckpointChainState, Except.bind_eq_ok, revalidate_eq_ok, exists_const]
  constructor
  · rintro ⟨hpolicy, -, hstate⟩
    exact ⟨hpolicy, (Except.ok.inj hstate).symm⟩
  · rintro ⟨hpolicy, rfl⟩
    exact ⟨hpolicy, initialState_valid hpolicy, rfl⟩

end Successor

/-! ## Histories -/

/-- What a checkpoint keeps of one that was accepted before it. -/
structure Follows (earlier later : CentralScoreCheckpoint) : Prop where
  sequence : earlier.sequence < later.sequence
  height : earlier.finalizedHeight ≤ later.finalizedHeight
  finalizedEpoch : earlier.finalizedEpoch ≤ later.finalizedEpoch
  issued : earlier.issuedAtEpoch ≤ later.issuedAtEpoch
  evaluation : earlier.evaluationEpoch ≤ later.evaluationEpoch
  sameHeight : earlier.finalizedHeight = later.finalizedHeight →
    earlier.finalizedBlockHash = later.finalizedBlockHash ∧ earlier.finalizedEpoch = later.finalizedEpoch ∧
    earlier.inputSnapshotDigestSha256 = later.inputSnapshotDigestSha256 ∧
    earlier.canonicalScoreReportDigestSha256 = later.canonicalScoreReportDigestSha256 ∧
    earlier.reportScoreVectorDigestSha256 = later.reportScoreVectorDigestSha256 ∧
    earlier.scoreVectorDigestSha256 = later.scoreVectorDigestSha256

/-- `Follows` is transitive: where the height is the same at the ends, it is the same between them. -/
lemma Follows.trans {a b c : CentralScoreCheckpoint} (hab : Follows a b) (hbc : Follows b c) : Follows a c where
  sequence := hab.sequence.trans hbc.sequence
  height := hab.height.trans hbc.height
  finalizedEpoch := hab.finalizedEpoch.trans hbc.finalizedEpoch
  issued := hab.issued.trans hbc.issued
  evaluation := hab.evaluation.trans hbc.evaluation
  sameHeight := by
    intro heq
    have hfirst : a.finalizedHeight = b.finalizedHeight := by
      have := hab.height
      have := hbc.height
      omega
    obtain ⟨hhash, hepoch, hsnapshot, hreport, hvector, hscores⟩ := hab.sameHeight hfirst
    obtain ⟨hhash', hepoch', hsnapshot', hreport', hvector', hscores'⟩ := hbc.sameHeight (hfirst.symm.trans heq)
    exact ⟨hhash.trans hhash', hepoch.trans hepoch', hsnapshot.trans hsnapshot', hreport.trans hreport',
      hvector.trans hvector', hscores.trans hscores'⟩

/-- The state keeps what the checkpoint says. -/
structure Records (state : CheckpointChainState) (checkpoint : CentralScoreCheckpoint) : Prop where
  sequence : state.lastSequence = checkpoint.sequence
  height : state.lastFinalizedHeight = some checkpoint.finalizedHeight
  blockHash : state.lastFinalizedBlockHash = some checkpoint.finalizedBlockHash
  finalizedEpoch : state.lastFinalizedEpoch = some checkpoint.finalizedEpoch
  issued : state.lastIssuedAtEpoch = some checkpoint.issuedAtEpoch
  evaluation : state.lastEvaluationEpoch = some checkpoint.evaluationEpoch
  snapshot : state.lastInputSnapshotDigestSha256 = some checkpoint.inputSnapshotDigestSha256
  report : state.lastCanonicalScoreReportDigestSha256 = some checkpoint.canonicalScoreReportDigestSha256
  vector : state.lastReportScoreVectorDigestSha256 = some checkpoint.reportScoreVectorDigestSha256
  scores : state.lastScoreVectorDigestSha256 = some checkpoint.scoreVectorDigestSha256
  digest : state.lastCheckpointDigestSha256 = some checkpoint.checkpointDigestSha256

lemma records_successor (state : CheckpointChainState) (checkpoint : CentralScoreCheckpoint) :
    Records (successor state checkpoint) checkpoint :=
  ⟨rfl, rfl, rfl, rfl, rfl, rfl, rfl, rfl, rfl, rfl, rfl⟩

/-- A checkpoint that is accepted after another follows it. -/
lemma Records.follows {state : CheckpointChainState} {last checkpoint : CentralScoreCheckpoint}
    {policy : CheckpointTrustPolicy} (h : Records state last) (hsequence : checkpoint.sequence ≠ state.lastSequence)
    (hnext : verifyNext state checkpoint policy = .ok ()) : Follows last checkpoint := by
  rw [verifyNext_eq_ok, verifySameHeight_eq_ok] at hnext
  obtain ⟨hle, -, -, hheight, hepoch, -, ⟨hissued, hevaluation⟩, hsame⟩ := hnext
  simp only [h.sequence, h.height, h.blockHash, h.finalizedEpoch, h.issued, h.evaluation, h.snapshot, h.report,
    h.vector, h.scores, Option.getD_some, Option.some.injEq] at *
  refine ⟨by omega, hheight, hepoch, hissued, hevaluation, fun heq => ?_⟩
  obtain ⟨hhash, hepoch', hsnapshot, hreport, hvector, hscores⟩ := hsame heq.symm
  exact ⟨hhash.symm, hepoch'.symm, hsnapshot.symm, hreport.symm, hvector.symm, hscores.symm⟩

/-- A valid state that accepted nothing keeps no digest. -/
lemma CheckpointChainState.Valid.lastCheckpointDigest {state : CheckpointChainState} (h : state.Valid)
    (hcount : state.acceptedCheckpointCount = 0) : state.lastCheckpointDigestSha256 = none := by
  obtain ⟨-, hfits, -⟩ := h
  rw [CheckpointChainState.Fits, if_pos hcount] at hfits
  have habsent := hfits.2 state.lastCheckpointDigestSha256.isNone (by simp [CheckpointChainState.absences])
  exact Option.isNone_iff_eq_none.mp habsent

/-! ## Documents -/

/-- Documents with the same keys have the same values when they are equal. -/
lemma values_eq_of_document_eq {members members' : List (String × Json)} (hnodup : (members.map Prod.fst).Nodup)
    (hkeys : members.map Prod.fst = members'.map Prod.fst) (h : document members = document members') :
    members.map Prod.snd = members'.map Prod.snd := by
  have hvalues := memberValues_document_exact hnodup
  rw [h, hkeys, memberValues_document_exact (hkeys ▸ hnodup)] at hvalues
  exact (Option.some.inj hvalues).symm

@[simp] lemma text_inj {s s' : String} : text s = text s' ↔ s = s' := by
  rw [text, text, Json.str.injEq, String.toList_inj]

lemma optional_text_inj {s s' : Option String} (h : optional text s = optional text s') : s = s' := by
  cases s with
  | none =>
    cases s' with
    | none => rfl
    | some s' => cases h
  | some s =>
    cases s' with
    | none => cases h
    | some s' => exact congrArg some (text_inj.mp h)

lemma Eligibility.text_injective : Function.Injective Eligibility.text := by
  intro a b h
  cases a <;> cases b
  · rfl
  · exact absurd h (by decide)
  · exact absurd h (by decide)
  · rfl

/-- The document of an entry determines it. -/
lemma CheckpointScoreEntry.toJson_injective : Function.Injective CheckpointScoreEntry.toJson := by
  rintro ⟨uid, hotkey, status, ppm, digest⟩ ⟨uid', hotkey', status', ppm', digest'⟩ h
  simp only [CheckpointScoreEntry.toJson] at h
  replace h := values_eq_of_document_eq (by simp) (by simp) h
  simp only [List.map_cons, List.map_nil, List.cons.injEq, and_true, Json.num.injEq, text_inj] at h
  obtain ⟨rfl, rfl, hstatus, rfl, rfl⟩ := h
  rw [Eligibility.text_injective hstatus]

/-- The document of a checkpoint determines it, with the digest it is sealed by. -/
lemma CentralScoreCheckpoint.eq_of_document {a b : CentralScoreCheckpoint} (ha : a.Valid) (hb : b.Valid)
    (h : document a.members = document b.members) : a = b := by
  have hdigest : a.checkpointDigestSha256 = b.checkpointDigestSha256 := by
    rw [ha.2.2.2.2.2.2.2, hb.2.2.2.2.2.2.2, h]
  clear ha hb
  have hnodup : (a.members.map Prod.fst).Nodup := by simp [members]
  have hkeys : a.members.map Prod.fst = b.members.map Prod.fst := by simp [members]
  have hvalues := values_eq_of_document_eq hnodup hkeys h
  clear h hnodup hkeys
  cases a
  cases b
  simp only [members, List.map_cons, List.map_nil, List.cons.injEq, and_true, true_and, Json.num.injEq, text_inj,
    Json.arr.injEq] at hvalues hdigest
  obtain ⟨hauthority, hscoring, hpolicy, hheight, hhash, hepoch, hsnapshot, hreport, hvector, hentries, hscores,
    hsequence, hissued, hevaluation, hexpires, hprevious⟩ := hvalues
  have hentries := List.map_injective_iff.mpr CheckpointScoreEntry.toJson_injective hentries
  have hprevious := optional_text_inj hprevious
  simp only [hauthority, hscoring, hpolicy, hheight, hhash, hepoch, hsnapshot, hreport, hvector, hentries, hscores,
    hsequence, hissued, hevaluation, hexpires, hprevious, hdigest]

/-! ## Runs -/

section Runs

variable (policy : CheckpointTrustPolicy)

/-- One offer, as an offer that gives nothing back. -/
def offer (state : CheckpointChainState) (checkpoint : CentralScoreCheckpoint) :
    Except RelayError (CheckpointChainState × Unit) :=
  (advanceCheckpointChainState state checkpoint policy).map fun next => (next, ())

/-- The state after a run of offers. A rejected one leaves the state as it was. -/
def chainState (initial : CheckpointChainState) (offers : List CentralScoreCheckpoint) : CheckpointChainState :=
  Offer.run (offer policy) initial offers

/-- The checkpoints that a run accepted. -/
def accepted (initial : CheckpointChainState) (offers : List CentralScoreCheckpoint) : List CentralScoreCheckpoint :=
  Offer.taken (offer policy) (fun _ => true) initial offers

variable {policy} {state next : CheckpointChainState} {checkpoint : CentralScoreCheckpoint} {u : Unit}

lemma offer_eq_ok : offer policy state checkpoint = .ok (next, u) ↔
    advanceCheckpointChainState state checkpoint policy = .ok next := by
  rw [offer]
  cases advanceCheckpointChainState state checkpoint policy with
  | error e => exact iff_of_false nofun nofun
  | ok next' =>
    constructor
    · intro h
      exact congrArg Except.ok (Prod.mk.inj (Except.ok.inj h)).1
    · intro h
      rw [Except.ok.inj h]
      rfl

/-- What the state of a run and the checkpoints accepted in it have to do with each other. -/
structure History (state : CheckpointChainState) (chain : List CentralScoreCheckpoint) : Prop where
  valid : state.Valid
  members : ∀ c ∈ chain, c.Valid
  ordered : chain.Pairwise Follows
  linked : HashChain.Linked CentralScoreCheckpoint.checkpointDigestSha256
    CentralScoreCheckpoint.previousCheckpointDigestSha256 chain.reverse state.lastCheckpointDigestSha256
  tip : ∀ c ∈ chain.getLast?, state.acceptedCheckpointCount ≠ 0 ∧ Records state c

lemma history_initialState (h : policy.Valid) : History (initialState policy) [] where
  valid := initialState_valid h
  members := nofun
  ordered := List.Pairwise.nil
  linked := rfl
  tip := by simp

/-- Every accepted checkpoint is the last one or followed by it. -/
lemma History.follows_getLast {chain : List CentralScoreCheckpoint} {a : CentralScoreCheckpoint}
    (h : History state chain) (ha : a ∈ chain) :
    a = chain.getLast (List.ne_nil_of_mem ha) ∨ Follows a (chain.getLast (List.ne_nil_of_mem ha)) := by
  have hsplit := List.dropLast_append_getLast (List.ne_nil_of_mem ha)
  have hordered := h.ordered
  rw [← hsplit, List.pairwise_append] at hordered
  obtain hinit | hend := List.mem_append.mp (hsplit ▸ ha)
  · exact Or.inr (hordered.2.2 a hinit _ (List.mem_singleton_self _))
  · exact Or.inl (List.mem_singleton.mp hend)

/-- An accepted checkpoint extends the history.

**Proof sketch.** The first checkpoint names no other. Any other one names and follows the last accepted one, whose
fields the state keeps, and through it all earlier ones. -/
lemma History.extend {chain : List CentralScoreCheckpoint} (h : History state chain)
    (hadvance : advanceCheckpointChainState state checkpoint policy = .ok next) :
    History next (chain ++ [checkpoint]) := by
  obtain ⟨⟨-, hcheckpoint, -⟩, -, hposition, hvalid, rfl⟩ := advance_eq_ok.mp hadvance
  rw [verifyPosition_eq_ok] at hposition
  have hlast : ∀ a ∈ chain.getLast?, Follows a checkpoint := by
    intro a ha
    obtain ⟨hnonzero, hrecords⟩ := h.tip a ha
    rcases hposition with ⟨hzero, -⟩ | ⟨-, hsequence, hnext⟩
    · exact absurd hzero hnonzero
    · exact hrecords.follows hsequence hnext
  have hprevious : checkpoint.previousCheckpointDigestSha256 = state.lastCheckpointDigestSha256 := by
    rcases hposition with ⟨hzero, hfirst⟩ | ⟨-, -, hnext⟩
    · rw [h.valid.lastCheckpointDigest hzero]
      exact (verifyFirst_eq_ok.mp hfirst).2
    · exact (verifyNext_eq_ok.mp hnext).2.2.1
  refine ⟨hvalid, ?_, ?_, ?_, ?_⟩
  · intro c hc
    rcases List.mem_append.mp hc with hc | hc
    · exact h.members c hc
    · exact List.mem_singleton.mp hc ▸ hcheckpoint
  · rw [List.pairwise_append]
    refine ⟨h.ordered, List.pairwise_singleton _ _, ?_⟩
    intro a ha b hb
    obtain rfl := List.mem_singleton.mp hb
    have hfollows := hlast (chain.getLast (List.ne_nil_of_mem ha)) (List.getLast_mem_getLast? _)
    obtain heq | hbefore := h.follows_getLast ha
    · rwa [heq]
    · exact hbefore.trans hfollows
  · have hlinked := h.linked
    rw [← hprevious] at hlinked
    rw [List.reverse_append]
    exact ⟨rfl, hlinked⟩
  · intro a ha
    rw [List.getLast?_concat, Option.mem_some_iff] at ha
    subst ha
    refine ⟨?_, records_successor _ _⟩
    have hbounds := h.valid.count_bounds
    change state.acceptedCheckpointCount + 1 ≠ 0
    omega

/-- **The history of a run.** Every offer keeps it; a rejected one changes nothing. -/
lemma history_run {initial : CheckpointChainState} (h : History initial []) (offers : List CentralScoreCheckpoint) :
    History (chainState policy initial offers) (accepted policy initial offers) := by
  rw [← List.nil_append (accepted policy initial offers)]
  refine Offer.taken_induction (J := History) ?_ ?_ h offers
  · intro state c next u chain hhistory hoffer _
    exact hhistory.extend (offer_eq_ok.mp hoffer)
  · intro state c next u chain _ _ hnot
    exact absurd rfl hnot

end Runs

/-- **Score checkpoints never equivocate.** In every run from the initial state of a policy the state stays a value of
its contract and every valid checkpoint is accepted or rejected; the accepted checkpoints are distinct and follow each
other. Where the digests of the offered checkpoints are those of one document only, two runs that end with the same last
digest accepted the same checkpoints.

**Proof sketch.** The first part is read off the history of a run. For the second, both histories are chains linked by
digests with the same head. -/
theorem checkpoint_chain_agrees (policy : CheckpointTrustPolicy) (initial : CheckpointChainState)
    (hinitial : buildInitialCheckpointChainState policy = .ok initial) :
    (∀ offers, (chainState policy initial offers).Valid ∧ (accepted policy initial offers).Nodup ∧
      (accepted policy initial offers).Pairwise Follows ∧
      ∀ checkpoint : CentralScoreCheckpoint, checkpoint.Valid →
        Rejecting (advanceCheckpointChainState (chainState policy initial offers) checkpoint policy)) ∧
    ∀ offers offers' : List CentralScoreCheckpoint,
      (∀ a ∈ offers, ∀ b ∈ offers', digest (document a.members) = digest (document b.members) →
        document a.members = document b.members) →
      (chainState policy initial offers).lastCheckpointDigestSha256 =
        (chainState policy initial offers').lastCheckpointDigestSha256 →
      accepted policy initial offers = accepted policy initial offers' := by
  obtain ⟨hpolicy, rfl⟩ := buildInitialCheckpointChainState_eq_ok.mp hinitial
  have hhistory := fun offers => @history_run policy _ (history_initialState hpolicy) offers
  refine ⟨fun offers => ?_, fun offers offers' hinj hlast => ?_⟩
  · refine ⟨(hhistory offers).valid, ?_, (hhistory offers).ordered, fun checkpoint hcheckpoint => ?_⟩
    · refine (hhistory offers).ordered.imp fun h heq => ?_
      exact absurd h.sequence (by rw [heq]; exact lt_irrefl _)
    · exact advance_rejecting (hhistory offers).valid hcheckpoint hpolicy
  · have hlinked := (hhistory offers).linked
    have hlinked' := (hhistory offers').linked
    rw [hlast] at hlinked
    apply List.reverse_injective
    apply hlinked.unique hlinked'
    intro a ha b hb hdigest
    have ha' := (hhistory offers).members a (List.mem_reverse.mp ha)
    have hb' := (hhistory offers').members b (List.mem_reverse.mp hb)
    apply CentralScoreCheckpoint.eq_of_document ha' hb'
    apply hinj a (Offer.mem_of_mem_taken (List.mem_reverse.mp ha)) b (Offer.mem_of_mem_taken (List.mem_reverse.mp hb))
    rw [← ha'.2.2.2.2.2.2.2, ← hb'.2.2.2.2.2.2.2, hdigest]

/-! ## A sample run -/

namespace Sample

/-- The one key of the sample. -/
def key : TrustedCheckpointKey where
  keyID := "issuer"
  publicKeyBase64 := Manifest.Sample.key.publicKeyBase64
  publicKeySha256 := sha256Hex (List.replicate 32 1)
  roles := [.checkpointIssuer]
  validFromEpoch := 0
  validUntilEpoch := 1000000
  revokedAtEpoch := none

/-- The policy of the sample. -/
def policy : CheckpointTrustPolicy :=
  CheckpointTrustPolicy.sealed
    { centralAuthorityFingerprintSha256 := String.ofList (List.replicate 64 'a')
      centralScoringPolicyDigestSha256 := String.ofList (List.replicate 64 'b')
      threshold := 1
      requiredRoles := [.checkpointIssuer]
      trustedKeys := [key]
      validFromEpoch := 0
      validUntilEpoch := 1000000
      maxCheckpointAgeSeconds := 3600
      maxFutureSkewSeconds := 300
      maxCheckpointLifetimeSeconds := 3600
      maxSequenceGap := 64
      maxFinalizedHeightGap := 1000
      trustPolicyDigestSha256 := "" }

lemma key_valid : key.Valid := by
  refine ⟨by decide, by decide, hex64_sha256Hex _, by decide, by decide, by decide, by decide,
    by decide, ?_, by decide, by decide, by decide⟩
  change (Manifest.decodeEd25519PublicKeyBase64 Manifest.Sample.key.publicKeyBase64).map sha256Hex = _
  rw [Manifest.Sample.key_decodes]
  rfl

lemma policy_valid : policy.Valid := by
  refine ⟨⟨hex64_replicate (by decide), hex64_replicate (by decide), by decide, by decide, by decide, by decide,
    by decide, ?_, by decide, by decide, by decide, by decide, by decide, by decide, by decide, hex64_digest _⟩,
    by decide, by decide, by decide, by decide, by decide, by decide, CheckpointTrustPolicy.digest_sealed _⟩
  intro k hk
  obtain rfl : k = key := List.mem_singleton.mp hk
  exact key_valid

/-- One miner, with a score. -/
def minerEntry : CheckpointScoreEntry where
  minerUid := 3
  minerHotkey := "miner"
  eligibilityStatus := .eligible
  canonicalScorePpm := 1000000
  recordDigestSha256 := String.ofList (List.replicate 64 'd')

/-- The first checkpoint, before it is sealed. -/
def unsealed : CentralScoreCheckpoint where
  centralAuthorityFingerprintSha256 := policy.centralAuthorityFingerprintSha256
  centralScoringPolicyDigestSha256 := policy.centralScoringPolicyDigestSha256
  trustPolicyDigestSha256 := policy.trustPolicyDigestSha256
  finalizedHeight := 100
  finalizedBlockHash := String.ofList (List.replicate 64 'e')
  finalizedEpoch := 1200
  inputSnapshotDigestSha256 := String.ofList (List.replicate 64 '1')
  canonicalScoreReportDigestSha256 := String.ofList (List.replicate 64 '2')
  reportScoreVectorDigestSha256 := String.ofList (List.replicate 64 '3')
  scoreVector := [minerEntry]
  scoreVectorDigestSha256 := digest (.arr [minerEntry.toJson])
  sequence := 1
  issuedAtEpoch := 1200
  evaluationEpoch := 1200
  expiresAtEpoch := 1800
  previousCheckpointDigestSha256 := none
  checkpointDigestSha256 := ""

/-- The first checkpoint. -/
def first : CentralScoreCheckpoint := unsealed.sealed

lemma minerEntry_valid : minerEntry.Valid :=
  ⟨by decide, by decide, by decide, hex64_replicate (by decide), by decide⟩

lemma first_valid : first.Valid := by
  refine ⟨⟨hex64_replicate (by decide), hex64_replicate (by decide), hex64_digest _, by decide, hex64_replicate (by decide),
    by decide, hex64_replicate (by decide), hex64_replicate (by decide), hex64_replicate (by decide), by decide, by decide,
    ?_, hex64_digest _, by decide, by decide, by decide, by decide, by decide, hex64_digest _⟩, by decide, by decide,
    by decide, by decide, by decide, rfl, CentralScoreCheckpoint.digest_sealed _⟩
  intro e he
  obtain rfl : e = minerEntry := List.mem_singleton.mp he
  exact minerEntry_valid

lemma verifyChain_first : verifyChain (initialState policy) first = .ok () := by
  simp [verifyChain, Except.bind_eq_ok, initialState, CheckpointChainState.sealed, first, unsealed,
    CentralScoreCheckpoint.sealed]

/-- The state after the first checkpoint. -/
def afterFirst : CheckpointChainState := successor (initialState policy) first

lemma advance_first : advanceCheckpointChainState (initialState policy) first policy = .ok afterFirst := by
  have hposition : verifyPosition (initialState policy) first policy = .ok () :=
    verifyPosition_eq_ok.mpr (Or.inl ⟨rfl, verifyFirst_eq_ok.mpr ⟨rfl, rfl⟩⟩)
  exact advance_eq_ok.mpr ⟨⟨initialState_valid policy_valid, first_valid, policy_valid⟩, verifyChain_first, hposition,
    successor_valid (initialState_valid policy_valid) first_valid hposition, rfl⟩

/-- The first checkpoint is rejected when it is offered again. -/
lemma advance_first_again : advanceCheckpointChainState afterFirst first policy =
    .error (.rejected .checkpointReplay) := by
  have hvalid : afterFirst.Valid := (advance_eq_ok.mp advance_first).2.2.2.1
  have hposition : verifyPosition afterFirst first policy = .error (.rejected .checkpointReplay) := by
    have hcount : afterFirst.acceptedCheckpointCount ≠ 0 := by decide
    have hsequence : first.sequence = afterFirst.lastSequence := rfl
    rw [verifyPosition, if_neg hcount, if_pos hsequence, rejectSameSequence]
    have hdigest : some first.checkpointDigestSha256 = afterFirst.lastCheckpointDigestSha256 := rfl
    rw [reject, if_pos hdigest]
    rfl
  rw [advanceCheckpointChainState, revalidate_eq_ok (u := ()) |>.mpr hvalid,
    revalidate_eq_ok (u := ()) |>.mpr first_valid, revalidate_eq_ok (u := ()) |>.mpr policy_valid,
    show verifyChain afterFirst first = .ok () from verifyChain_first, hposition]
  rfl

end Sample

/-- Two validators, one of which was offered the first checkpoint twice. -/
theorem checkpoint_chain_agrees_sample :
    accepted Sample.policy (initialState Sample.policy) [Sample.first] =
      accepted Sample.policy (initialState Sample.policy) [Sample.first, Sample.first] := by
  refine (checkpoint_chain_agrees Sample.policy (initialState Sample.policy)
    (buildInitialCheckpointChainState_eq_ok.mpr ⟨Sample.policy_valid, rfl⟩)).2 _ _ ?_ ?_
  · intro a ha b hb _
    obtain rfl : a = Sample.first := List.mem_singleton.mp ha
    have hb' : b = Sample.first := by simpa using hb
    rw [hb']
  · have hfirst : offer Sample.policy (initialState Sample.policy) Sample.first = .ok (Sample.afterFirst, ()) :=
      offer_eq_ok.mpr Sample.advance_first
    have hagain : offer Sample.policy Sample.afterFirst Sample.first = .error (.rejected .checkpointReplay) := by
      rw [offer, Sample.advance_first_again]
      rfl
    rw [chainState, chainState, Offer.run_cons_of_ok hfirst, Offer.run_cons_of_ok hfirst,
      Offer.run_cons_of_error hagain]

end Relay

end Misscomputer
