import Misscomputer.Lib.Sha256Numeral
import Misscomputer.Weights.Audit
import Mathlib.Tactic.Linarith

set_option relaxedAutoImplicit false
set_option autoImplicit false

/-!
# Reconciliation

An operator asks what became of an attempt. The report judges one attempt of the ledger by its own record, with what the chain
shows now as evidence beside it, and says whether the plan may be tried again.

## Main definitions

* `Weights.AuditState.selectAttempt` — the attempt a report is about.
* `Weights.WeightReconciliationReport` — the report.
* `Weights.reconcileWeightAttempt` — the report on a ledger, for what the chain shows.

## Main results

* `Weights.reconcileWeightAttempt_eq_ok` — what a report says of its attempt.
* `Weights.eligible_attempt_barrier` — how the advice of a report compares with the barrier of the store.

## Implementation notes

The state of the ledger is an argument, since it is read without a lock and nothing is written. What the chain answers is an
argument, too, and so is whether it answers.

## References

* `src/misscomputer_subnet/weight_reconciliation.py` (`_select_attempt`, `_row_digest`, `_row_relation`,
  `_target_identity_status`, `reconcile_weight_attempt`, `WeightReconciliationReport`)
* `docs/weight-reconciliation.md`
-/

namespace Misscomputer

namespace Weights

/-! ## Evidence -/

/-- `WeightReconciliationError`. -/
structure ReconciliationError where
  code : String
  message : String
  deriving DecidableEq

/-- What the chain answers: a snapshot, unless it cannot be opened or read, and the weights of a validator at a block. -/
structure ChainEvidence where
  sync : Option MetagraphSnapshot
  validatorWeights : ℤ → ℤ → Option (Dict ℤ Double)

/-- `EvidenceRelation`. -/
inductive EvidenceRelation
  | consistent
  | different
  | unavailable
  deriving DecidableEq

/-- `IdentityStatus`. -/
inductive IdentityStatus
  | exact
  | changed
  | validatorMissing
  deriving DecidableEq

/-- `RetryDisposition`. -/
inductive RetryDisposition
  | eligiblePreSend
  | blockedRequiresOperator
  deriving DecidableEq

/-- The text of a relation. -/
def EvidenceRelation.text : EvidenceRelation → List Char
  | .consistent => "consistent".toList
  | .different => "different".toList
  | .unavailable => "unavailable".toList

/-- The text of an identity status. -/
def IdentityStatus.text : IdentityStatus → List Char
  | .exact => "exact".toList
  | .changed => "changed".toList
  | .validatorMissing => "validator_missing".toList

/-- The text of a disposition. -/
def RetryDisposition.text : RetryDisposition → List Char
  | .eligiblePreSend => "eligible_pre_send".toList
  | .blockedRequiresOperator => "blocked_requires_operator".toList

/-- `_row_digest`. -/
def rowDigest (lib : AuditLibrary) (row : Dict ℤ Double) : List Char :=
  let document := (Sorting.sortOn Prod.fst row).map fun entry =>
    Value.dict [("uid".toList, .int entry.1), ("weight_hex".toList, .str (lib.hex entry.2))]
  hexdigest (Text.bytes (lib.dumps (.list document)))

/-- `math.isclose(expected, observed, rel_tol=0.0, abs_tol=tolerance)` for a finite expectation. -/
def IsCloseTo (tolerance : ℚ) (expected observed : Double) : Prop :=
  match expected, observed with
  | .finite p, .finite q => |p - q| ≤ tolerance
  | _, _ => False

instance (tolerance : ℚ) (expected observed : Double) : Decidable (IsCloseTo tolerance expected observed) := by
  unfold IsCloseTo
  split <;> infer_instance

/-- `_row_relation`. -/
def rowRelation (expected observed : Dict ℤ Double) : EvidenceRelation :=
  if ¬ (expected.keys ⊆ observed.keys ∧ observed.keys ⊆ expected.keys) then .different
  else
    let tolerance : ℚ := max (2 / 65535) (expected.length / 65535)
    if ∀ entry ∈ expected, IsCloseTo tolerance entry.2 ((observed.get entry.1).getD .nonFinite) then .consistent
    else .different

/-- `_target_identity_status`. -/
def targetIdentityStatus (attempt : AttemptFields) (snapshot : MetagraphSnapshot) (validatorUid : Option ℤ) :
    IdentityStatus :=
  match validatorUid with
  | none => .validatorMissing
  | some _ =>
    if ∀ weight ∈ attempt.weights, ∃ current ∈ (neuronsByHotkey snapshot).get weight.hotkey,
        current.active = true ∧ current.uid = weight.uid then .exact
    else .changed

/-- The weights of an attempt as a row. -/
def expectedRow (attempt : AttemptFields) : Dict ℤ Double :=
  Dict.lasts (attempt.weights.map fun weight => (weight.uid, Double.finite weight.weight))

/-! ## The report -/

/-- `WeightReconciliationReport`. -/
structure WeightReconciliationReport where
  auditDigestSha256 : List Char
  attemptId : List Char
  attemptStatus : AuditStatus
  submissionStarted : Bool
  network : List Char
  netuid : ℤ
  validatorHotkey : List Char
  evidenceBlock : ℤ
  validatorUid : Option ℤ
  targetIdentityStatus : IdentityStatus
  evidenceRelation : EvidenceRelation
  expectedRowDigestSha256 : List Char
  observedRowDigestSha256 : Option (List Char)
  retryDisposition : RetryDisposition
  conclusion : String
  alertRequired : Bool

namespace WeightReconciliationReport

/-- `WeightReconciliationReport._unsigned_document`. -/
def unsignedDocument (report : WeightReconciliationReport) : List (List Char × Value) :=
  [("alert_required".toList, .bool report.alertRequired), ("attempt_id".toList, .str report.attemptId),
    ("attempt_status".toList, .str report.attemptStatus.text),
    ("audit_digest_sha256".toList, .str report.auditDigestSha256), ("conclusion".toList, .str report.conclusion.toList),
    ("evidence".toList, .dict [("block".toList, .int report.evidenceBlock),
      ("expected_row_digest_sha256".toList, .str report.expectedRowDigestSha256),
      ("observed_row_digest_sha256".toList, optionalText report.observedRowDigestSha256),
      ("relation".toList, .str report.evidenceRelation.text),
      ("target_identity_status".toList, .str report.targetIdentityStatus.text),
      ("validator_uid".toList, report.validatorUid.elim .null .int)]),
    ("netuid".toList, .int report.netuid), ("network".toList, .str report.network),
    ("retry_disposition".toList, .str report.retryDisposition.text),
    ("schema".toList, .str "miss.computer/misscomputer-subnet/weight-reconciliation-report".toList),
    ("schema_version".toList, .int 1), ("submission_started".toList, .bool report.submissionStarted),
    ("validator_hotkey".toList, .str report.validatorHotkey)]

/-- `WeightReconciliationReport.digest_sha256`. -/
def digestSha256 (lib : Library) (report : WeightReconciliationReport) : List Char :=
  hexdigest (Text.bytes (lib.dumps (.dict report.unsignedDocument)))

/-- `WeightReconciliationReport.canonical_bytes`. -/
def canonicalBytes (lib : Library) (report : WeightReconciliationReport) : List UInt8 :=
  Text.bytes (lib.dumps (.dict (report.unsignedDocument ++
    [("digest_sha256".toList, .str (report.digestSha256 lib))])) ++ ['\n'])

end WeightReconciliationReport

/-! ## The attempt in question -/

/-- The outcome of the attempt is not known, or it failed although it was submitted. -/
def AttemptFields.Uncertain (attempt : AttemptFields) : Prop :=
  attempt.status = .inProgress ∨ attempt.status = .ambiguous ∨
    attempt.status = .failed ∧ attempt.submissionStarted = true

instance (attempt : AttemptFields) : Decidable attempt.Uncertain := inferInstanceAs (Decidable (_ ∨ _ ∨ _))

/-- `_select_attempt`. -/
def AuditState.selectAttempt {lib : AuditLibrary} (state : AuditState lib) (attemptId : Option (List Char)) :
    Except ReconciliationError (AuditAttempt lib) :=
  match attemptId with
  | some id =>
    match state.attempts.find? fun attempt => attempt.attemptId = id with
    | some attempt => .ok attempt
    | none => .error ⟨"attempt_not_found", "audit attempt was not found"⟩
  | none =>
    match state.attempts.getLast? with
    | none => .error ⟨"attempt_not_found", "audit state has no attempts"⟩
    | some last => .ok ((state.attempts.reverse.find? fun attempt => attempt.Uncertain).getD last)

/-- What a report concludes: the advice, its reason, and whether to raise an alert. -/
def AttemptFields.judge (attempt : AttemptFields) (relation : EvidenceRelation) : RetryDisposition × String × Bool :=
  if attempt.status = .failed ∧ attempt.submissionStarted = false then
    (.eligiblePreSend, "durable audit proves submission never started", false)
  else if attempt.status = .confirmed then
    (.blockedRequiresOperator, "durable audit records finalized submission", false)
  else
    match relation with
    | .consistent => (.blockedRequiresOperator,
        "current row is consistent with the attempt but is not proof of inclusion", true)
    | .different => (.blockedRequiresOperator,
        "current row differs but may have been overwritten after the attempt", true)
    | .unavailable => (.blockedRequiresOperator,
        "validator identity is unavailable; submission outcome remains unresolved", true)

/-- The chain must be readable. -/
def evidenceOf {α : Type} (answer : Option α) (message : String) : Except ReconciliationError α :=
  match answer with
  | some a => .ok a
  | none => .error ⟨"chain_evidence_unavailable", message⟩

/-- The UID under which the validator may set weights. -/
def permittedUid (snapshot : MetagraphSnapshot) (validatorHotkey : List Char) : Option ℤ :=
  ((snapshot.byHotkey validatorHotkey).filter fun validator => validator.active && validator.validatorPermit).map
    NeuronRecord.uid

/-- The row that the validator has set, when there is a validator. -/
def observedRow (chain : ChainEvidence) (snapshot : MetagraphSnapshot) (validatorUid : Option ℤ) :
    Except ReconciliationError (Option (Dict ℤ Double)) :=
  match validatorUid with
  | none => .ok none
  | some uid => do
    let row ← evidenceOf (chain.validatorWeights snapshot.block uid) "finalized validator weights are unavailable"
    return some row

/-- `reconcile_weight_attempt`, on the state it has loaded. -/
def reconcileWeightAttempt {lib : AuditLibrary} (state : AuditState lib) (chain : ChainEvidence) (network : List Char)
    (netuid : ℤ) (validatorHotkey : List Char) (attemptId : Option (List Char)) :
    Except ReconciliationError WeightReconciliationReport := do
  let attempt ← state.selectAttempt attemptId
  Except.reject (attempt.network ≠ network ∨ attempt.netuid ≠ netuid ∨ attempt.validatorHotkey ≠ validatorHotkey)
    ⟨"audit_identity_mismatch", "audit attempt differs from configured chain identity"⟩
  let snapshot ← evidenceOf chain.sync "finalized chain evidence is unavailable"
  Except.reject (¬ (snapshot.neurons.map NeuronRecord.hotkey).Nodup ∨ ¬ (snapshot.neurons.map NeuronRecord.uid).Nodup)
    ⟨"chain_evidence_invalid", "finalized metagraph identity is ambiguous"⟩
  let validatorUid := permittedUid snapshot validatorHotkey
  let expected := expectedRow attempt.toAttemptFields
  let observed ← observedRow chain snapshot validatorUid
  let relation := observed.elim .unavailable (rowRelation expected)
  let verdict := attempt.judge relation
  return {
    auditDigestSha256 := state.digestSha256
    attemptId := attempt.attemptId
    attemptStatus := attempt.status
    submissionStarted := attempt.submissionStarted
    network := network
    netuid := netuid
    validatorHotkey := validatorHotkey
    evidenceBlock := snapshot.block
    validatorUid := validatorUid
    targetIdentityStatus := targetIdentityStatus attempt.toAttemptFields snapshot validatorUid
    evidenceRelation := relation
    expectedRowDigestSha256 := rowDigest lib expected
    observedRowDigestSha256 := observed.map (rowDigest lib)
    retryDisposition := verdict.1
    conclusion := verdict.2.1
    alertRequired := verdict.2.2 }

/-! ## What a report says -/

section Reports

variable {lib : AuditLibrary} {state : AuditState lib} {attempt : AuditAttempt lib} {attemptId : Option (List Char)}
  {chain : ChainEvidence} {network validatorHotkey : List Char} {netuid : ℤ} {report : WeightReconciliationReport}

/-- The advice depends on the attempt alone, not on the evidence. -/
lemma judge_eligible_iff (relation : EvidenceRelation) :
    (attempt.judge relation).1 = .eligiblePreSend ↔ ¬ attempt.Blocks := by
  rw [AuditAttempt.not_blocks_iff]
  unfold AttemptFields.judge
  split
  · rename_i h
    exact iff_of_true rfl h
  · rename_i h
    refine iff_of_false ?_ h
    split
    · simp
    · cases relation <;> simp

/-- An uncertain attempt blocks its plan. -/
lemma AuditAttempt.Blocks.of_uncertain (h : attempt.Uncertain) : attempt.Blocks := by
  rcases h with h | h | ⟨-, h⟩
  · exact .inl (by rw [h]; decide)
  · exact .inl (by rw [h]; decide)
  · exact .inr h

/-- **What a report says of its attempt.** -/
lemma reconcileWeightAttempt_eq_ok
    (h : reconcileWeightAttempt state chain network netuid validatorHotkey attemptId = .ok report) :
    ∃ attempt, state.selectAttempt attemptId = .ok attempt ∧ report.attemptId = attempt.attemptId ∧
      (report.retryDisposition = .eligiblePreSend ↔ ¬ attempt.Blocks) := by
  simp only [reconcileWeightAttempt, Except.bind_eq_ok] at h
  obtain ⟨attempt, hselect, _, _, snapshot, _, _, _, observed, _, heq⟩ := h
  obtain rfl := Except.ok.inj heq
  exact ⟨attempt, hselect, rfl, judge_eligible_iff _⟩

/-- The attempt in question is in the ledger. -/
lemma mem_of_selectAttempt (h : state.selectAttempt attemptId = .ok attempt) : attempt ∈ state.attempts := by
  unfold AuditState.selectAttempt at h
  split at h
  · split at h
    · rename_i found hfound
      obtain rfl := Except.ok.inj h
      exact List.mem_of_find?_eq_some hfound
    · cases h
  · split at h
    · cases h
    · rename_i last hlast
      obtain rfl := Except.ok.inj h
      cases hfind : state.attempts.reverse.find? fun attempt => attempt.Uncertain with
      | none => exact List.mem_of_getLast? hlast
      | some found => exact List.mem_reverse.mp (List.mem_of_find?_eq_some hfind)

/-- **Without an id** a certain attempt is selected only when all attempts are certain, and then it is the last one. -/
lemma selectAttempt_none (h : state.selectAttempt none = .ok attempt) (hcertain : ¬ attempt.Uncertain) :
    (∀ a ∈ state.attempts, ¬ a.Uncertain) ∧ ∃ before, state.attempts = before ++ [attempt] := by
  unfold AuditState.selectAttempt at h
  split at h
  · rename_i hnone
    cases hnone
  · split at h
    · cases h
    · rename_i last hlast
      obtain rfl := Except.ok.inj h
      cases hfind : state.attempts.reverse.find? fun attempt => attempt.Uncertain with
      | none =>
        refine ⟨fun a ha huncertain => ?_, ?_⟩
        · exact List.find?_eq_none.mp hfind a (List.mem_reverse.mpr ha) (decide_eq_true huncertain)
        · obtain ⟨before, hbefore⟩ := List.getLast?_eq_some_iff.mp hlast
          exact ⟨before, hbefore⟩
      | some found =>
        rw [hfind] at hcertain
        have huncertain : found.Uncertain := by simpa using List.find?_some hfind
        exact absurd huncertain hcertain

end Reports

/-! ## The advice and the barrier -/

/-- An attempt of the plan is admitted: the barrier does not refuse it, and it is started when its arguments are well formed
and the ledger has room for it. -/
def AuditState.Admits {lib : AuditLibrary} (state : AuditState lib) (planDigest : List Char) : Prop :=
  ∀ (vector : ExecutionVector lib.toLibrary) (preflightBlock : ℤ) (timestamp nonce : List Char),
    vector.planDigestSha256 = planDigest →
      state.startAttempt vector preflightBlock timestamp nonce ≠ .error AuditState.idempotencyBlocked ∧
      (IsTimestamp lib timestamp → IsDigest nonce → 0 ≤ preflightBlock ∧ preflightBlock ≤ maxBlock →
        state.attempts.length < maxAuditAttempts →
        (∀ attempt ∈ state.attempts, attempt.attemptId ≠ AuditState.attemptId vector nonce timestamp) →
        ∃ attempt state', state.startAttempt vector preflightBlock timestamp nonce = .ok (attempt, state'))

/-- A plan without a blocking attempt is admitted. -/
lemma AuditState.admits_of_free {lib : AuditLibrary} {state : AuditState lib} {planDigest : List Char}
    (h : state.blockingAttempt planDigest = none) : state.Admits planDigest := by
  rintro vector preflightBlock timestamp nonce rfl
  refine ⟨fun hblocked => AuditState.startAttempt_eq_blocked.mp hblocked h, ?_⟩
  intro htimestamp hnonce hblock hroom hnew
  obtain ⟨attempt, state', hstart, -⟩ := AuditState.startAttempt_of_free h htimestamp hnonce hblock hroom hnew
  exact ⟨attempt, state', hstart⟩

/-- **The advice and the barrier.** Whatever a store has done, and whatever the chain shows: a report that calls an attempt
eligible leaves its plan to the attempts behind it, so the plan is free exactly when each of these failed before it was
submitted. When no attempt was asked for, the plan is free. A free plan is admitted. And when no attempt was asked for, an
uncertain attempt anywhere in the ledger keeps the report from calling its attempt eligible.

**Proof sketch.** In a reachable ledger only the last attempt of a plan may block it, so nothing in front of an eligible
attempt does. Without an id the report is about an uncertain attempt, if there is one, and else about the last one. -/
theorem eligible_attempt_barrier (lib : AuditLibrary) (requests : List (AuditRequest lib)) (chain : ChainEvidence)
    (network validatorHotkey : List Char) (netuid : ℤ) (attemptId : Option (List Char))
    (report : WeightReconciliationReport)
    (h : reconcileWeightAttempt (AuditStore.run lib requests).file chain network netuid validatorHotkey attemptId =
      .ok report) :
    (report.retryDisposition = .eligiblePreSend → ∃ before attempt after,
      (AuditStore.run lib requests).file.attempts = before ++ attempt :: after ∧
      attempt.attemptId = report.attemptId ∧
      ((AuditStore.run lib requests).file.blockingAttempt attempt.planDigestSha256 = none ↔
        ∀ later ∈ after, later.planDigestSha256 = attempt.planDigestSha256 →
          later.status = .failed ∧ later.submissionStarted = false) ∧
      (attemptId = none → (AuditStore.run lib requests).file.blockingAttempt attempt.planDigestSha256 = none) ∧
      ((AuditStore.run lib requests).file.blockingAttempt attempt.planDigestSha256 = none →
        (AuditStore.run lib requests).file.Admits attempt.planDigestSha256)) ∧
    (attemptId = none → (∃ attempt ∈ (AuditStore.run lib requests).file.attempts, attempt.Uncertain) →
      report.retryDisposition ≠ .eligiblePreSend) := by
  obtain ⟨attempt, hselect, hid, heligible⟩ := reconcileWeightAttempt_eq_ok h
  have hguarded := (AuditStore.sound_run requests).file
  generalize (AuditStore.run lib requests).file = state at *
  constructor
  · intro hreport
    have hdead := heligible.mp hreport
    obtain ⟨before, after, hsplit⟩ := List.append_of_mem (mem_of_selectAttempt hselect)
    have hblocked : AuditState.Blocked state.attempts attempt.planDigestSha256 ↔
        AuditState.Blocked after attempt.planDigestSha256 := by
      rw [AuditState.Guarded, hsplit] at hguarded
      rw [hsplit]
      exact hguarded.blocked_iff hdead
    refine ⟨before, attempt, after, hsplit, hid.symm, ?_, ?_, AuditState.admits_of_free⟩
    · rw [AuditState.blockingAttempt_eq_none, hblocked]
      constructor
      · intro hfree later hlater hplan
        exact AuditAttempt.not_blocks_iff.mp fun hblocks => hfree ⟨later, hlater, hplan, hblocks⟩
      · rintro hlater ⟨later, hmem, hplan, hblocks⟩
        exact AuditAttempt.not_blocks_iff.mpr (hlater later hmem hplan) hblocks
    · rintro rfl
      obtain ⟨-, front, hlast⟩ :=
        selectAttempt_none hselect fun huncertain => hdead (AuditAttempt.Blocks.of_uncertain huncertain)
      rw [AuditState.blockingAttempt_eq_none, hlast]
      rw [AuditState.Guarded, hlast] at hguarded
      rintro hplan
      obtain ⟨later, hlater, -⟩ := (hguarded.blocked_iff hdead).mp hplan
      cases hlater
  · rintro rfl ⟨uncertain, hmem, huncertain⟩ hreport
    have hdead := heligible.mp hreport
    obtain ⟨hcertain, -⟩ :=
      selectAttempt_none hselect fun huncertain => hdead (AuditAttempt.Blocks.of_uncertain huncertain)
    exact hcertain uncertain hmem huncertain

/-! ## A sample -/

/-- A file is no longer than four times the cost of its document. -/
lemma length_dumps_le (lib : Library) (v : Value) :
    (Text.bytes (lib.dumps v ++ ['\n'])).length ≤ 4 * (v.cost lib.real + 1) := by
  have hesc : ∀ c, (Static.pythonEscape c).length ≤ 12 := by
    intro c
    have hcoded : ∀ c, Json.Printable c → Static.pythonCoded c = false := by
      intro c hc
      rw [Static.pythonCoded, Bool.not_eq_false', Bool.and_eq_true, decide_eq_true_iff, decide_eq_true_iff]
      exact hc
    refine (Json.length_escapeWith_le hcoded c).trans ?_
    rw [Json.charCost]
    split <;> omega
  have hrender : (lib.dumps v).length ≤ v.cost lib.real := by
    rw [← Value.cost_sortKeys v]
    exact Value.length_render_le hesc _
  have hbytes : ∀ s : List Char, (Text.bytes s).length ≤ 4 * s.length := by
    intro s
    induction s with
    | nil => exact le_refl 0
    | cons c s ih =>
      have hchar : (String.utf8EncodeChar c).length ≤ 4 := by
        rw [String.length_utf8EncodeChar]
        exact c.utf8Size_le_four
      rw [Text.bytes, List.flatMap_cons, List.length_append, List.length_cons]
      rw [Text.bytes] at ih
      omega
  have hfile := hbytes (lib.dumps v ++ ['\n'])
  rw [List.length_append, List.length_singleton] at hfile
  omega

namespace Sample

/-- A library that reads the time stamp of the sample. -/
def auditLibrary : AuditLibrary :=
  { library with
    fromisoformat := fun s => if s = "2026-01-01T00:00:00+00:00".toList then some (some 0) else none
    hex := fun _ => "0x1.0000000000000p+0".toList }

/-- A vector that gives the miner all the weight. -/
def auditVector : ExecutionVector auditLibrary.toLibrary :=
  { vector with
    planDigestSha256 := List.replicate 64 'a'
    digest := by decide }

/-- The time of the sample. -/
def stamp : List Char := "2026-01-01T00:00:00Z".toList

/-- The nonce of the first attempt. -/
def firstNonce : List Char := List.replicate 64 'b'

/-- The nonce of the second attempt. -/
def secondNonce : List Char := List.replicate 64 'c'

/-- The id of the first attempt. -/
def firstId : List Char := @AuditState.attemptId auditLibrary auditVector firstNonce stamp

/-- The id of the second attempt. -/
def secondId : List Char := @AuditState.attemptId auditLibrary auditVector secondNonce stamp

/-- The first attempt fails before it is submitted, and the plan is tried again. -/
def auditRequests : List (AuditRequest auditLibrary) :=
  [.start auditVector 1010 stamp firstNonce .stored,
    .finish firstId .failed .preSendFailure none (some "rpc_unavailable".toList) stamp .stored,
    .start auditVector 1010 stamp secondNonce .stored]

lemma isTimestamp_stamp : IsTimestamp auditLibrary stamp := by decide

/-- The two attempts have different ids: their digests begin differently. -/
lemma firstId_ne_secondId : firstId ≠ secondId := by
  have hdigits : firstId.head? = some 'd' ∧ secondId.head? = some 'f' := by
    rw [firstId, secondId, AuditState.attemptId, AuditState.attemptId, hexdigest, hexdigest, Contract.sha256Hex,
      Contract.sha256Hex, String.toList_ofList, String.toList_ofList, Sha256.sum256_eq_numeral,
      Sha256.sum256_eq_numeral]
    decide +kernel
  intro h
  rw [h, hdigits.2] at hdigits
  cases hdigits.1

/-- An attempt of the sample takes little space. -/
def Small (attempt : AttemptFields) : Prop := attempt.document.cost auditLibrary.real ≤ 20000

/-- The attempts of the sample take little space. -/
lemma small_of_valid {fields : AttemptFields} (h : fields.Valid auditLibrary) (hweights : fields.weights = auditVector.weights)
    (homitted : fields.omitted = auditVector.omitted)
    (hnumbers : fields.netuid = 7 ∧ fields.preflightBlock = 1010 ∧ fields.versionKey = 2)
    (hreceipt : (fields.receipt.elim Value.null AuditReceipt.document).cost auditLibrary.real ≤ 1000)
    (hsend : fields.sendCheckBlock = none) : Small fields := by
  obtain ⟨hnetuid, hblock, hversion⟩ := hnumbers
  have hnetwork := h.network.1.2.1
  have hvalidator := h.validator.2.1
  have hstarted := h.started.2.1
  have hupdated := h.updated.2.1
  have hmapping : Value.costItems auditLibrary.real (fields.omitted.map OmittedWeight.document) ≤ 1000 ∧
      Value.costItems auditLibrary.real (fields.weights.map ExecutionWeight.document) ≤ 1000 := by
    rw [hweights, homitted]
    decide
  have hintegers : (Json.renderInt 7).length = 1 ∧ (Json.renderInt 1010).length = 4 ∧ (Json.renderInt 2).length = 1 := by
    decide
  have hstatus : fields.status.text.length ≤ 20 := by cases fields.status <;> decide
  have hnames : "attempt_id".toList.length = 10 ∧ "attempt_key".toList.length = 11 ∧
      "execution_digest_sha256".toList.length = 23 ∧ "mapping".toList.length = 7 ∧ "omitted".toList.length = 7 ∧
      "weights".toList.length = 7 ∧ "netuid".toList.length = 6 ∧ "network".toList.length = 7 ∧
      "plan_digest_sha256".toList.length = 18 ∧ "preflight_block".toList.length = 15 ∧
      "receipt".toList.length = 7 ∧ "send_check_block".toList.length = 16 ∧ "started_at".toList.length = 10 ∧
      "status".toList.length = 6 ∧ "submission_started".toList.length = 18 ∧ "updated_at".toList.length = 10 ∧
      "validator_hotkey".toList.length = 16 ∧ "version_key".toList.length = 11 := by
    decide
  obtain ⟨h1, h2, h3, h4, h5, h6, h7, h8, h9, h10, h11, h12, h13, h14, h15, h16, h17, h18⟩ := hnames
  simp only [Small, AttemptFields.document, Value.cost, Value.costMembers, hsend, Option.elim_none, h.id.1, h.key.1,
    h.plan.1, h.execution.1, hnetuid, hblock, hversion, hintegers.1, hintegers.2.1, hintegers.2.2,
    h1, h2, h3, h4, h5, h6, h7, h8, h9, h10, h11, h12, h13, h14, h15, h16, h17, h18]
  clear h hsend hweights homitted hnetuid hblock hversion hintegers h1 h2 h3 h4 h5 h6 h7 h8 h9 h10 h11 h12 h13 h14 h15 h16
    h17 h18
  generalize fields.network.length = network, fields.validatorHotkey.length = validator, fields.startedAt.length = started,
    fields.updatedAt.length = updated, fields.status.text.length = status,
    Value.costItems auditLibrary.real (fields.omitted.map OmittedWeight.document) = omitted,
    Value.costItems auditLibrary.real (fields.weights.map ExecutionWeight.document) = weights,
    (fields.receipt.elim Value.null AuditReceipt.document).cost auditLibrary.real = receipt at *
  obtain ⟨homitted, hweights⟩ := hmapping
  linarith

lemma cost_attempts_le (attempts : List (AuditAttempt auditLibrary)) (h : ∀ a ∈ attempts, Small a.toAttemptFields) :
    Value.costItems auditLibrary.real (attempts.map fun a => a.document) ≤ 1 + 20001 * attempts.length := by
  induction attempts with
  | nil => exact le_refl 1
  | cons a attempts ih =>
    obtain ⟨ha, hrest⟩ := List.forall_mem_cons.mp h
    have hcost : a.document.cost auditLibrary.real ≤ 20000 := ha
    have := ih hrest
    rw [List.map_cons, Value.costItems, List.length_cons]
    omega

/-- A ledger of two such attempts can be written. -/
lemma fits (state : AuditState auditLibrary) (hlength : state.attempts.length ≤ 2)
    (h : ∀ a ∈ state.attempts, Small a.toAttemptFields) : ¬ maxWeightPlanBytes < state.canonicalBytes.length := by
  have hattempts := cost_attempts_le state.attempts h
  have hdigest : state.digestSha256.length = 64 := (isDigest_hexdigest _).1
  have hone : (Json.renderInt 1).length = 1 := by decide
  have hcost : state.document.cost auditLibrary.real ≤ 50000 := by
    have hkeys : "attempts".toList.length = 8 ∧ "schema".toList.length = 6 ∧ "schema_version".toList.length = 14 ∧
        "digest_sha256".toList.length = 13 ∧
        "miss.computer/misscomputer-subnet/weight-execution-audit".toList.length = 56 := by decide
    obtain ⟨h1, h2, h3, h4, h5⟩ := hkeys
    simp only [AuditState.document, AuditState.unsignedDocument, List.cons_append, List.nil_append, Value.cost,
      Value.costMembers, hdigest, hone, h1, h2, h3, h4, h5]
    generalize Value.costItems auditLibrary.real (state.attempts.map fun a => a.document) = n at *
    omega
  have hbytes := length_dumps_le auditLibrary.toLibrary state.document
  rw [AuditState.canonicalBytes, maxWeightPlanBytes]
  omega

/-- A prepared ledger that fits is written. -/
lemma commit_fits {file known state : AuditState auditLibrary} {attempt : AuditAttempt auditLibrary}
    (hfits : ¬ maxWeightPlanBytes < state.canonicalBytes.length) :
    (⟨file, known, true⟩ : AuditStore auditLibrary).commit (.ok (attempt, state)) .stored =
      (⟨state, state, true⟩, .ok attempt) := by
  rw [AuditStore.commit, AuditStore.persist, if_neg hfits]
  rfl

section Next

variable {file known state : AuditState auditLibrary} {attempt : AuditAttempt auditLibrary}

lemma next_start {vector : ExecutionVector auditLibrary.toLibrary} {block : ℤ} {timestamp nonce : List Char}
    (h : known.startAttempt vector block timestamp nonce = .ok (attempt, state))
    (hfits : ¬ maxWeightPlanBytes < state.canonicalBytes.length) :
    Machine.next AuditStore.serve ⟨file, known, true⟩ (.start vector block timestamp nonce .stored) =
      ⟨state, state, true⟩ := by
  rw [Machine.next, AuditStore.serve, h, commit_fits hfits]

lemma next_finish {id timestamp : List Char} {status : AuditStatus} {outcome : ReceiptOutcome}
    {extrinsicRef errorCode : Option (List Char)}
    (h : known.finishAttempt id status outcome extrinsicRef errorCode timestamp = .ok (attempt, state))
    (hfits : ¬ maxWeightPlanBytes < state.canonicalBytes.length) :
    Machine.next AuditStore.serve ⟨file, known, true⟩
      (.finish id status outcome extrinsicRef errorCode timestamp .stored) = ⟨state, state, true⟩ := by
  rw [Machine.next, AuditStore.serve, h, commit_fits hfits]

end Next

/-- The record of an attempt once it has failed. -/
def failedFields (fields : AttemptFields) (receipt : AuditReceipt) : AttemptFields :=
  { fields with
    status := .failed
    receipt := some receipt
    updatedAt := stamp }

/-- The record of the first attempt. -/
def firstFields : AttemptFields := @AuditState.newAttempt auditLibrary auditVector 1010 stamp firstNonce

/-- The receipt of the first attempt. -/
def failure : AuditReceipt where
  outcome := .preSendFailure
  extrinsicRef := none
  errorCode := some "rpc_unavailable".toList
  reference := by simp
  code := by decide
  complete := by simp

lemma attemptId_failedFields (fields : AttemptFields) (receipt : AuditReceipt) :
    (failedFields fields receipt).attemptId = fields.attemptId := rfl

lemma planDigest_failedFields (fields : AttemptFields) (receipt : AuditReceipt) :
    (failedFields fields receipt).planDigestSha256 = fields.planDigestSha256 := rfl

lemma attemptId_firstFields : firstFields.attemptId = firstId := by
  rw [firstFields, AuditState.attemptId_newAttempt, firstId]

lemma planDigest_firstFields : firstFields.planDigestSha256 = auditVector.planDigestSha256 := by
  rw [firstFields, AuditState.planDigest_newAttempt]

/-- The ledger of the sample: the first attempt of the plan failed before it was submitted, and the second is under way. -/
lemma file_run : ∃ first second : AuditAttempt auditLibrary,
    (AuditStore.run auditLibrary auditRequests).file.attempts = [first, second] ∧
      first.toAttemptFields = failedFields firstFields failure ∧
      second.toAttemptFields = AuditState.newAttempt auditVector 1010 stamp secondNonce := by
  -- the first attempt is started,
  have hfree : (AuditState.empty auditLibrary).blockingAttempt auditVector.planDigestSha256 = none := rfl
  obtain ⟨first, s₁, hstart, hfirst, hs₁⟩ := @AuditState.startAttempt_of_free _ _ auditVector 1010 stamp firstNonce hfree
    isTimestamp_stamp (by decide) (by decide) (by decide) (by simp [AuditState.empty])
  have hfirstValid := AttemptFields.check_eq_ok.mp first.checked
  rw [hfirst] at hfirstValid
  have hfits₁ : ¬ maxWeightPlanBytes < s₁.canonicalBytes.length := by
    apply fits
    · rw [hs₁]
      exact one_le_two
    · rw [hs₁, AuditState.empty, List.nil_append, List.forall_mem_singleton, hfirst]
      exact small_of_valid hfirstValid rfl rfl ⟨rfl, rfl, rfl⟩ (by decide) rfl
  -- and fails,
  have hid : first.attemptId = firstId := by rw [hfirst, AuditState.attemptId_newAttempt, firstId]
  have hfind : s₁.findAttempt firstId = .ok first := by
    rw [AuditState.findAttempt_eq_ok, hs₁, AuditState.empty, List.nil_append, List.find?_cons_of_pos]
    exact decide_eq_true hid
  have hvalid : (failedFields firstFields failure).Valid auditLibrary :=
    AuditState.valid_failed hfirstValid rfl isTimestamp_stamp
  obtain ⟨failed, hfailed⟩ : ∃ failed : AuditAttempt auditLibrary, failed.toAttemptFields = failedFields firstFields failure :=
    ⟨⟨_, AttemptFields.check_eq_ok.mpr hvalid⟩, rfl⟩
  have hfailedId : failed.attemptId = firstId := by rw [hfailed, attemptId_failedFields, attemptId_firstFields]
  obtain ⟨s₂, hupdate, hs₂⟩ := AuditState.updateAttempt_of_running hfind (by rw [hfirst, AuditState.status_newAttempt])
    hfailedId
  have hs₂' : s₂.attempts = [failed] := by
    rw [hs₂, hs₁, AuditState.empty, List.nil_append, List.map_singleton, if_pos hid]
  have hfinish : s₁.finishAttempt firstId .failed .preSendFailure none (some "rpc_unavailable".toList) stamp =
      .ok (failed, s₂) := by
    simp only [AuditState.finishAttempt, Except.bind_eq_ok]
    refine ⟨first, hfind, failure, AuditReceipt.make_eq_ok.mpr ⟨rfl, rfl, rfl⟩, failed,
      AuditAttempt.make_eq_ok.mpr ?_, hupdate⟩
    rw [hfirst, hfailed, failedFields, firstFields]
  have hfits₂ : ¬ maxWeightPlanBytes < s₂.canonicalBytes.length := by
    apply fits
    · rw [hs₂']
      exact one_le_two
    · rw [hs₂', List.forall_mem_singleton, hfailed]
      exact small_of_valid hvalid rfl rfl ⟨rfl, rfl, rfl⟩ (by decide) rfl
  -- so that a second one may be started.
  have hfree₂ : s₂.blockingAttempt auditVector.planDigestSha256 = none := by
    rw [AuditState.blockingAttempt_eq_none, hs₂']
    rintro ⟨attempt, hmem, -, hblocks⟩
    obtain rfl := List.mem_singleton.mp hmem
    refine AuditAttempt.not_blocks_iff.mpr ?_ hblocks
    rw [hfailed]
    exact ⟨rfl, rfl⟩
  have hnew : ∀ attempt ∈ s₂.attempts, attempt.attemptId ≠ AuditState.attemptId auditVector secondNonce stamp := by
    rw [hs₂', List.forall_mem_singleton, hfailedId]
    exact firstId_ne_secondId
  obtain ⟨second, s₃, hstart₃, hsecond, hs₃⟩ := @AuditState.startAttempt_of_free _ _ auditVector 1010 stamp secondNonce
    hfree₂ isTimestamp_stamp (by decide) (by decide) (by rw [hs₂', List.length_singleton]; decide) hnew
  have hsecondValid := AttemptFields.check_eq_ok.mp second.checked
  rw [hsecond] at hsecondValid
  have hs₃' : s₃.attempts = [failed, second] := by rw [hs₃, hs₂', List.singleton_append]
  have hfits₃ : ¬ maxWeightPlanBytes < s₃.canonicalBytes.length := by
    apply fits
    · rw [hs₃']
      exact le_refl 2
    · rw [hs₃', List.forall_mem_cons, List.forall_mem_singleton, hfailed, hsecond]
      exact ⟨small_of_valid hvalid rfl rfl ⟨rfl, rfl, rfl⟩ (by decide) rfl,
        small_of_valid hsecondValid rfl rfl ⟨rfl, rfl, rfl⟩ (by decide) rfl⟩
  refine ⟨failed, second, ?_, hfailed, hsecond⟩
  have hrun : AuditStore.run auditLibrary auditRequests = ⟨s₃, s₃, true⟩ := by
    rw [AuditStore.run, auditRequests, AuditStore.empty, Machine.run_cons, next_start hstart hfits₁, Machine.run_cons,
      next_finish hfinish hfits₂, Machine.run_cons, next_start hstart₃ hfits₃, Machine.run_nil]
  rw [hrun, hs₃']

/-- The chain shows a validator without a permit. -/
def chain : ChainEvidence where
  sync := some { snapshot with neurons := [minerNeuron] }
  validatorWeights := fun _ _ => none

/-- A report on the first attempt of the sample. -/
lemma reconcile_first {state : AuditState auditLibrary} {first second : AuditAttempt auditLibrary}
    (hattempts : state.attempts = [first, second]) (hfirst : first.toAttemptFields = failedFields firstFields failure) :
    ∃ report, reconcileWeightAttempt state chain snapshot.network 7 ['v'] (some firstId) = .ok report ∧
      report.attemptId = firstId ∧ report.retryDisposition = .eligiblePreSend := by
  have hid : first.attemptId = firstId := by rw [hfirst, attemptId_failedFields, attemptId_firstFields]
  have hselect : state.selectAttempt (some firstId) = .ok first := by
    have hfind : (state.attempts.find? fun attempt => attempt.attemptId = firstId) = some first := by
      rw [hattempts, List.find?_cons_of_pos]
      exact decide_eq_true hid
    simp only [AuditState.selectAttempt, hfind]
  have hidentity : first.network = snapshot.network ∧ first.netuid = 7 ∧ first.validatorHotkey = ['v'] := by
    rw [hfirst]
    exact ⟨rfl, rfl, rfl⟩
  have hobserved : observedRow chain { snapshot with neurons := [minerNeuron] }
      (permittedUid { snapshot with neurons := [minerNeuron] } ['v']) = .ok none := rfl
  obtain ⟨report, hreport⟩ : ∃ report,
      reconcileWeightAttempt state chain snapshot.network 7 ['v'] (some firstId) = .ok report := by
    have hunique : Except.reject (¬ ([minerNeuron].map NeuronRecord.hotkey).Nodup ∨
        ¬ ([minerNeuron].map NeuronRecord.uid).Nodup) (⟨"chain_evidence_invalid",
          "finalized metagraph identity is ambiguous"⟩ : ReconciliationError) = .ok () :=
      Except.reject_eq_ok.mpr (by decide)
    exact ⟨_, Except.bind_eq_ok.mpr ⟨first, hselect, Except.bind_eq_ok.mpr ⟨(),
      Except.reject_eq_ok.mpr (by simp [hidentity]), Except.bind_eq_ok.mpr ⟨_, rfl, Except.bind_eq_ok.mpr ⟨(), hunique,
        Except.bind_eq_ok.mpr ⟨none, hobserved, rfl⟩⟩⟩⟩⟩⟩
  obtain ⟨attempt, hattempt, hreportId, heligible⟩ := reconcileWeightAttempt_eq_ok hreport
  obtain rfl := Except.ok.inj (hselect.symm.trans hattempt)
  refine ⟨report, hreport, hreportId.trans hid, heligible.mpr (AuditAttempt.not_blocks_iff.mpr ?_)⟩
  rw [hfirst]
  exact ⟨rfl, rfl⟩

end Sample

/-- The first attempt of the sample is called eligible, and its plan is free exactly when the second attempt failed, too. -/
theorem eligible_attempt_barrier_sample : ∃ report before attempt after,
    reconcileWeightAttempt (AuditStore.run Sample.auditLibrary Sample.auditRequests).file Sample.chain
      Sample.snapshot.network 7 ['v'] (some Sample.firstId) = .ok report ∧
    (AuditStore.run Sample.auditLibrary Sample.auditRequests).file.attempts = before ++ attempt :: after ∧
    attempt.attemptId = report.attemptId ∧
    ((AuditStore.run Sample.auditLibrary Sample.auditRequests).file.blockingAttempt attempt.planDigestSha256 = none ↔
      ∀ later ∈ after, later.planDigestSha256 = attempt.planDigestSha256 →
        later.status = .failed ∧ later.submissionStarted = false) := by
  obtain ⟨first, second, hattempts, hfirst, -⟩ := Sample.file_run
  obtain ⟨report, hreport, -, heligible⟩ := Sample.reconcile_first hattempts hfirst
  obtain ⟨hbarrier, -⟩ := eligible_attempt_barrier Sample.auditLibrary Sample.auditRequests Sample.chain
    Sample.snapshot.network ['v'] 7 (some Sample.firstId) report hreport
  obtain ⟨before, attempt, after, hsplit, hid, hfree, -⟩ := hbarrier heligible
  exact ⟨report, before, attempt, after, hreport, hsplit, hid, hfree⟩

/-- **Advice against the barrier.** A plan is tried twice: the first attempt failed before it was submitted, the second is
under way. Asked for the first one, the report calls it eligible, and the store refuses the plan. -/
theorem eligible_attempt_blocked : ∃ report attempt,
    reconcileWeightAttempt (AuditStore.run Sample.auditLibrary Sample.auditRequests).file Sample.chain
      Sample.snapshot.network 7 ['v'] (some Sample.firstId) = .ok report ∧
    report.retryDisposition = .eligiblePreSend ∧
    attempt ∈ (AuditStore.run Sample.auditLibrary Sample.auditRequests).file.attempts ∧
    attempt.attemptId = report.attemptId ∧
    (AuditStore.run Sample.auditLibrary Sample.auditRequests).file.blockingAttempt attempt.planDigestSha256 ≠ none ∧
    (AuditStore.run Sample.auditLibrary Sample.auditRequests).file.startAttempt Sample.auditVector 1010 Sample.stamp
      Sample.secondNonce = .error AuditState.idempotencyBlocked := by
  obtain ⟨first, second, hattempts, hfirst, hsecond⟩ := Sample.file_run
  obtain ⟨report, hreport, hid, heligible⟩ := Sample.reconcile_first hattempts hfirst
  have hplan : first.planDigestSha256 = Sample.auditVector.planDigestSha256 := by
    rw [hfirst, Sample.planDigest_failedFields, Sample.planDigest_firstFields]
  have hblocked : (AuditStore.run Sample.auditLibrary Sample.auditRequests).file.blockingAttempt
      Sample.auditVector.planDigestSha256 ≠ none := by
    rw [Ne, AuditState.blockingAttempt_eq_none, not_not, hattempts]
    refine ⟨second, by simp, ?_, .inl ?_⟩
    · change second.planDigestSha256 = _
      rw [hsecond, AuditState.planDigest_newAttempt]
    · rw [hsecond, AuditState.status_newAttempt]
      decide
  refine ⟨report, first, hreport, heligible, by simp [hattempts], ?_, hplan ▸ hblocked,
    AuditState.startAttempt_eq_blocked.mpr hblocked⟩
  rw [hid, hfirst, Sample.attemptId_failedFields, Sample.attemptId_firstFields]

end Weights

end Misscomputer
