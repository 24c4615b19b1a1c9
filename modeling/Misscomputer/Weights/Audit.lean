import Misscomputer.Lib.Barrier
import Misscomputer.Lib.Machine
import Misscomputer.Weights.Execution

set_option relaxedAutoImplicit false
set_option autoImplicit false

/-!
# The audit ledger

Every attempt to submit the weights of a plan is recorded before it is made. The ledger is a file that a store replaces as a
whole, and an attempt of a plan is refused while the ledger holds another one that is under way, was confirmed, or may have
reached the chain.

## Main definitions

* `Weights.AuditReceipt`, `AuditAttempt`, `AuditState` — the records of the ledger, each with its constructor `make`.
* `Weights.AuditState.blockingAttempt` — the attempt on account of which a plan is refused.
* `Weights.AuditStore` — the file and what a store has read of it, with the operations of the store.
* `Weights.AuditStore.serve` — one operation.

## Main results

* `Weights.AuditStore.sound_run` — whatever the operations, of the attempts of a plan only the last may block it.
* `Weights.AuditState.startAttempt_eq_blocked` — an attempt is refused by the barrier exactly when one blocks its plan.

## Implementation notes

The file is the state that was written to it. How the storage takes a new state is an argument of each operation, so a run
covers every way it can fail.

## References

* `src/misscomputer_subnet/weight_executor.py` (`AuditReceipt`, `AuditAttempt`, `AuditState`, `AuditStateStore`,
  `execution_attempt_key`, `_validate_timestamp`)
-/

namespace Misscomputer

namespace Weights

/-! ## Receipts -/

/-- The standard library, as far as the ledger uses it: the UTC offset of the instant that `datetime.fromisoformat` reads, in
microseconds, and the text of `float.hex`. -/
structure AuditLibrary extends Library where
  fromisoformat : List Char → Option (Option ℤ)
  hex : Double → List Char

/-- `AuditStatus`. -/
inductive AuditStatus
  | inProgress
  | confirmed
  | failed
  | ambiguous
  deriving DecidableEq

/-- The text of a status. -/
def AuditStatus.text : AuditStatus → List Char
  | .inProgress => "in_progress".toList
  | .confirmed => "confirmed".toList
  | .failed => "failed".toList
  | .ambiguous => "ambiguous".toList

/-- `ReceiptOutcome`. -/
inductive ReceiptOutcome
  | confirmed
  | preSendFailure
  | definiteFailure
  | ambiguous
  deriving DecidableEq

/-- The text of an outcome. -/
def ReceiptOutcome.text : ReceiptOutcome → List Char
  | .confirmed => "confirmed".toList
  | .preSendFailure => "pre_send_failure".toList
  | .definiteFailure => "definite_failure".toList
  | .ambiguous => "ambiguous".toList

/-- `AuditStateError`. -/
def invalidState (message : String) : ExecutionError := .execution "audit_state_invalid" message

/-- A check of the ledger that returns what it has found. -/
def demandState (p : Prop) [Decidable p] (message : String) : Except ExecutionError (PLift p) :=
  demand p "audit_state_invalid" message

/-- The codes that `_safe_error_code` returns as they are. -/
def IsErrorCode (s : List Char) : Prop :=
  s ≠ [] ∧ s.length ≤ 64 ∧ ∀ c ∈ s, ('a' ≤ c ∧ c ≤ 'z') ∨ ('0' ≤ c ∧ c ≤ '9') ∨ c = '_'

instance (s : List Char) : Decidable (IsErrorCode s) := inferInstanceAs (Decidable (_ ∧ _ ∧ _))

/-- A text or `None`. -/
def optionalText (s : Option (List Char)) : Value := s.elim .null .str

/-- What is known of the end of an attempt. -/
structure AuditReceipt where
  outcome : ReceiptOutcome
  extrinsicRef : Option (List Char)
  errorCode : Option (List Char)
  reference : ∀ s, extrinsicRef = some s → IsText 256 s
  code : ∀ s, errorCode = some s → IsErrorCode s
  complete : if outcome = .confirmed then extrinsicRef ≠ none ∧ errorCode = none else errorCode ≠ none

namespace AuditReceipt

instance (P : List Char → Prop) [DecidablePred P] (o : Option (List Char)) : Decidable (∀ s, o = some s → P s) :=
  match o with
  | none => isTrue (by simp)
  | some s => decidable_of_iff (P s) (by simp)

/-- `AuditReceipt(...)`. -/
def make (outcome : ReceiptOutcome) (extrinsicRef errorCode : Option (List Char)) :
    Except ExecutionError AuditReceipt := do
  let hreference ← demandState (∀ s, extrinsicRef = some s → IsText 256 s) "audit extrinsic reference is invalid"
  let hcode ← demandState (∀ s, errorCode = some s → IsErrorCode s) "audit error code is invalid"
  let hcomplete ← demandState
    (if outcome = .confirmed then extrinsicRef ≠ none ∧ errorCode = none else errorCode ≠ none)
    (if outcome = .confirmed then "confirmed receipt is incomplete" else "failure receipt lacks an error code")
  return ⟨outcome, extrinsicRef, errorCode, hreference.down, hcode.down, hcomplete.down⟩

lemma make_eq_ok {outcome : ReceiptOutcome} {extrinsicRef errorCode : Option (List Char)} {receipt : AuditReceipt} :
    make outcome extrinsicRef errorCode = .ok receipt ↔
      outcome = receipt.outcome ∧ extrinsicRef = receipt.extrinsicRef ∧ errorCode = receipt.errorCode := by
  simp only [make, demandState, Except.bind_eq_ok, demand_eq_ok]
  constructor
  · rintro ⟨_, _, _, _, _, _, h⟩
    obtain rfl := Except.ok.inj h
    exact ⟨rfl, rfl, rfl⟩
  · rintro ⟨rfl, rfl, rfl⟩
    exact ⟨⟨receipt.reference⟩, receipt.reference, ⟨receipt.code⟩, receipt.code, ⟨receipt.complete⟩, receipt.complete, rfl⟩

/-- `AuditReceipt.document`. -/
def document (receipt : AuditReceipt) : Value :=
  .dict [("error_code".toList, optionalText receipt.errorCode),
    ("extrinsic_ref".toList, optionalText receipt.extrinsicRef), ("outcome".toList, .str receipt.outcome.text)]

end AuditReceipt

/-! ## Attempts -/

/-- `_validate_timestamp`. -/
def IsTimestamp (lib : AuditLibrary) (s : List Char) : Prop :=
  s.getLast? = some 'Z' ∧ s.length ≤ 40 ∧ lib.fromisoformat (s.dropLast ++ "+00:00".toList) = some (some 0)

instance (lib : AuditLibrary) (s : List Char) : Decidable (IsTimestamp lib s) := inferInstanceAs (Decidable (_ ∧ _ ∧ _))

/-- `_validate_public_network`: an error of the check is renamed. -/
def validatePublicNetwork (lib : Library) (fieldName : String) (network : List Char) : Except ExecutionError Unit :=
  match validateNetworkIdentity lib fieldName (.str network) with
  | .ok _ => .ok ()
  | .error (.weightPlan _) => .error (.execution "invalid_identity" (fieldName ++ " is invalid"))
  | .error e => .error (.raised e)

/-- A network passes when it is one. -/
lemma validatePublicNetwork_eq_ok {lib : Library} {fieldName : String} {network : List Char} {u : Unit} :
    validatePublicNetwork lib fieldName network = .ok u ↔ IsNetwork lib network := by
  unfold validatePublicNetwork
  constructor
  · intro h
    split at h
    · rename_i n hcheck
      rw [validateNetworkIdentity_eq_ok] at hcheck
      rw [Value.str.inj hcheck]
      exact n.2
    · cases h
    · cases h
  · intro h
    have hcheck : validateNetworkIdentity lib fieldName (.str network) = .ok ⟨network, h⟩ :=
      validateNetworkIdentity_eq_ok.mpr rfl
    rw [hcheck]

lemma isDigest_hexdigest (b : List UInt8) : IsDigest (hexdigest b) := isFingerprint_str.mp (isFingerprint_hexdigest b)

/-- The document under an attempt key. -/
def attemptKeyDocument (planDigest executionDigest : List Char) : Value :=
  .dict [("execution_digest_sha256".toList, .str executionDigest), ("plan_digest_sha256".toList, .str planDigest)]

/-- `execution_attempt_key`, for digests that have passed. -/
def executionAttemptKey (lib : AuditLibrary) (planDigest executionDigest : List Char) : List Char :=
  hexdigest (Text.bytes (lib.dumps (attemptKeyDocument planDigest executionDigest)))

/-- The fields of an attempt, before its checks. -/
structure AttemptFields where
  attemptId : List Char
  attemptKey : List Char
  planDigestSha256 : List Char
  executionDigestSha256 : List Char
  network : List Char
  netuid : ℤ
  validatorHotkey : List Char
  versionKey : ℤ
  preflightBlock : ℤ
  sendCheckBlock : Option ℤ
  status : AuditStatus
  submissionStarted : Bool
  startedAt : List Char
  updatedAt : List Char
  weights : List ExecutionWeight
  omitted : List OmittedWeight
  receipt : Option AuditReceipt

namespace AttemptFields

/-- The outcome that goes with a final status. -/
def expectedOutcome (attempt : AttemptFields) : ReceiptOutcome :=
  match attempt.status with
  | .confirmed => .confirmed
  | .ambiguous => .ambiguous
  | _ => if attempt.submissionStarted then .definiteFailure else .preSendFailure

/-- The check of the block at which the submission was about to be sent. -/
def checkSendBlock (attempt : AttemptFields) : Except ExecutionError Unit :=
  match attempt.sendCheckBlock with
  | none => .ok ()
  | some block => do
    let _ ← demand (0 ≤ block ∧ block ≤ maxBlock) "invalid_integer" "audit send-check block is invalid"
    let _ ← demandState (attempt.preflightBlock ≤ block) "audit send-check block predates preflight"
    return ()

/-- The check of the receipt against the status. -/
def checkReceipt (attempt : AttemptFields) : Except ExecutionError Unit :=
  if attempt.status = .inProgress then do
    let _ ← demandState (attempt.receipt.isNone = true) "in-progress attempt has a receipt"
    return ()
  else
    match attempt.receipt with
    | none => .error (invalidState "finished attempt lacks a receipt")
    | some receipt => do
      let _ ← demandState (receipt.outcome = attempt.expectedOutcome) "receipt outcome conflicts with status"
      return ()

/-- The checks of `AuditAttempt`. The execution vector is built again, and its digest compared. -/
def check (lib : AuditLibrary) (attempt : AttemptFields) : Except ExecutionError Unit := do
  let _ ← demandState (IsDigest attempt.attemptId) "attempt id is invalid"
  let _ ← demandState (IsDigest attempt.attemptKey) "attempt key is invalid"
  let _ ← demandState (IsDigest attempt.planDigestSha256) "plan digest is invalid"
  let _ ← demandState (IsDigest attempt.executionDigestSha256) "execution digest is invalid"
  let _ ← demandState
    (attempt.attemptKey = executionAttemptKey lib attempt.planDigestSha256 attempt.executionDigestSha256)
    "audit attempt key is invalid"
  validatePublicNetwork lib.toLibrary "audit network" attempt.network
  let _ ← demand (0 ≤ attempt.netuid ∧ attempt.netuid ≤ 65535) "invalid_integer" "audit netuid is invalid"
  let _ ← demand (IsText 256 attempt.validatorHotkey) "invalid_identity" "audit validator hotkey is invalid"
  let _ ← demand (0 ≤ attempt.versionKey ∧ attempt.versionKey ≤ maxVersionKey) "invalid_integer"
    "audit version key is invalid"
  let _ ← demand (0 ≤ attempt.preflightBlock ∧ attempt.preflightBlock ≤ maxBlock) "invalid_integer"
    "audit preflight block is invalid"
  attempt.checkSendBlock
  let _ ← demandState (IsTimestamp lib attempt.startedAt) "audit timestamp is invalid"
  let _ ← demandState (IsTimestamp lib attempt.updatedAt) "audit timestamp is invalid"
  let _ ← demandState (attempt.weights ≠ []) "audit execution vector is empty"
  let vector ← ExecutionVector.make lib.toLibrary attempt.planDigestSha256 attempt.network attempt.netuid
    attempt.validatorHotkey attempt.versionKey attempt.weights attempt.omitted
  let _ ← demandState (vector.digestSha256 = attempt.executionDigestSha256)
    "audit execution mapping digest does not match"
  attempt.checkReceipt
  let _ ← demandState (attempt.submissionStarted = true → attempt.sendCheckBlock ≠ none)
    "started submission lacks send-check block"
  let _ ← demandState (attempt.submissionStarted = false → attempt.sendCheckBlock = none)
    "pre-send attempt has a send-check block"
  let _ ← demandState
    (attempt.status = .confirmed ∨ attempt.status = .ambiguous → attempt.submissionStarted = true)
    "submission outcome was never started"
  return ()

/-- What the checks ask of an attempt. -/
structure Valid (lib : AuditLibrary) (attempt : AttemptFields) : Prop where
  id : IsDigest attempt.attemptId
  key : IsDigest attempt.attemptKey
  plan : IsDigest attempt.planDigestSha256
  execution : IsDigest attempt.executionDigestSha256
  key_eq : attempt.attemptKey = executionAttemptKey lib attempt.planDigestSha256 attempt.executionDigestSha256
  network : IsNetwork lib.toLibrary attempt.network
  netuid : 0 ≤ attempt.netuid ∧ attempt.netuid ≤ 65535
  validator : IsText 256 attempt.validatorHotkey
  version : 0 ≤ attempt.versionKey ∧ attempt.versionKey ≤ maxVersionKey
  preflight : 0 ≤ attempt.preflightBlock ∧ attempt.preflightBlock ≤ maxBlock
  send : attempt.checkSendBlock = .ok ()
  started : IsTimestamp lib attempt.startedAt
  updated : IsTimestamp lib attempt.updatedAt
  weights_ne : attempt.weights ≠ []
  vector : ∃ vector, ExecutionVector.make lib.toLibrary attempt.planDigestSha256 attempt.network attempt.netuid
    attempt.validatorHotkey attempt.versionKey attempt.weights attempt.omitted = .ok vector ∧
    vector.digestSha256 = attempt.executionDigestSha256
  receipt : attempt.checkReceipt = .ok ()
  sent : attempt.submissionStarted = true → attempt.sendCheckBlock ≠ none
  unsent : attempt.submissionStarted = false → attempt.sendCheckBlock = none
  submitted : attempt.status = .confirmed ∨ attempt.status = .ambiguous → attempt.submissionStarted = true

/-- **The checks** pass exactly for the valid attempts. -/
lemma check_eq_ok {lib : AuditLibrary} {attempt : AttemptFields} : attempt.check lib = .ok () ↔ attempt.Valid lib := by
  simp only [check, demandState, Except.bind_eq_ok, demand_eq_ok, validatePublicNetwork_eq_ok]
  constructor
  · rintro ⟨_, hid, _, hkey, _, hplan, _, hexecution, _, hkeys, _, hnetwork, _, hnetuid, _, hvalidator, _, hversion, _,
      hpreflight, _, hsend, _, hstarted, _, hupdated, _, hne, vector, hvector, _, hdigest, _, hreceipt, _, hsent, _,
      hunsent, _, hsubmitted, -⟩
    exact ⟨hid, hkey, hplan, hexecution, hkeys, hnetwork, hnetuid, hvalidator, hversion, hpreflight, hsend, hstarted,
      hupdated, hne, ⟨vector, hvector, hdigest⟩, hreceipt, hsent, hunsent, hsubmitted⟩
  · intro h
    obtain ⟨vector, hvector, hdigest⟩ := h.vector
    exact ⟨⟨h.id⟩, h.id, ⟨h.key⟩, h.key, ⟨h.plan⟩, h.plan, ⟨h.execution⟩, h.execution, ⟨h.key_eq⟩, h.key_eq, (), h.network,
      ⟨h.netuid⟩, h.netuid, ⟨h.validator⟩, h.validator, ⟨h.version⟩, h.version, ⟨h.preflight⟩, h.preflight, (), h.send,
      ⟨h.started⟩, h.started, ⟨h.updated⟩, h.updated, ⟨h.weights_ne⟩, h.weights_ne, vector, hvector, ⟨hdigest⟩, hdigest, (),
      h.receipt, ⟨h.sent⟩, h.sent, ⟨h.unsent⟩, h.unsent, ⟨h.submitted⟩, h.submitted, rfl⟩

/-- `AuditAttempt.document`. -/
def document (attempt : AttemptFields) : Value :=
  .dict [("attempt_id".toList, .str attempt.attemptId), ("attempt_key".toList, .str attempt.attemptKey),
    ("execution_digest_sha256".toList, .str attempt.executionDigestSha256),
    ("mapping".toList, .dict [("omitted".toList, .list (attempt.omitted.map OmittedWeight.document)),
      ("weights".toList, .list (attempt.weights.map ExecutionWeight.document))]),
    ("netuid".toList, .int attempt.netuid), ("network".toList, .str attempt.network),
    ("plan_digest_sha256".toList, .str attempt.planDigestSha256),
    ("preflight_block".toList, .int attempt.preflightBlock),
    ("receipt".toList, attempt.receipt.elim .null AuditReceipt.document),
    ("send_check_block".toList, attempt.sendCheckBlock.elim .null .int),
    ("started_at".toList, .str attempt.startedAt), ("status".toList, .str attempt.status.text),
    ("submission_started".toList, .bool attempt.submissionStarted), ("updated_at".toList, .str attempt.updatedAt),
    ("validator_hotkey".toList, .str attempt.validatorHotkey), ("version_key".toList, .int attempt.versionKey)]

end AttemptFields

/-- One attempt to submit the weights of a plan. -/
structure AuditAttempt (lib : AuditLibrary) extends AttemptFields where
  checked : toAttemptFields.check lib = .ok ()

namespace AuditAttempt

variable {lib : AuditLibrary}

/-- `AuditAttempt(...)`, and `replace` of some fields of another attempt. -/
def make (lib : AuditLibrary) (fields : AttemptFields) : Except ExecutionError (AuditAttempt lib) :=
  match h : fields.check lib with
  | .ok _ => .ok ⟨fields, h⟩
  | .error e => .error e

lemma make_eq_ok {fields : AttemptFields} {attempt : AuditAttempt lib} :
    make lib fields = .ok attempt ↔ fields = attempt.toAttemptFields := by
  constructor
  · intro h
    unfold make at h
    split at h
    · rw [← Except.ok.inj h]
    · cases h
  · rintro rfl
    unfold make
    split
    · rfl
    · rename_i e he
      rw [attempt.checked] at he
      cases he

/-- The attempt stands in the way of another one of its plan. -/
def Blocks (attempt : AuditAttempt lib) : Prop :=
  attempt.status ≠ .failed ∨ attempt.submissionStarted = true

instance (attempt : AuditAttempt lib) : Decidable attempt.Blocks := inferInstanceAs (Decidable (_ ∨ _))

/-- An attempt that does not block failed before it was submitted. -/
lemma not_blocks_iff {attempt : AuditAttempt lib} :
    ¬ attempt.Blocks ↔ attempt.status = .failed ∧ attempt.submissionStarted = false := by
  rw [Blocks, not_or, not_not, Bool.not_eq_true]

end AuditAttempt

/-! ## The ledger -/

/-- `MAX_AUDIT_ATTEMPTS`. -/
def maxAuditAttempts : ℕ := 4096

/-- `MAX_WEIGHT_PLAN_BYTES`. -/
def maxWeightPlanBytes : ℕ := 16 * 2 ^ 20

/-- The attempts, in the order in which they were started. -/
@[ext] structure AuditState (lib : AuditLibrary) where
  attempts : List (AuditAttempt lib)
  size : attempts.length ≤ maxAuditAttempts
  ids_nodup : (attempts.map fun attempt => attempt.attemptId).Nodup

namespace AuditState

variable {lib : AuditLibrary}

/-- `AuditState()`. -/
def empty (lib : AuditLibrary) : AuditState lib := ⟨[], Nat.zero_le _, List.nodup_nil⟩

/-- `AuditState(attempts)`. -/
def make (attempts : List (AuditAttempt lib)) : Except ExecutionError (AuditState lib) := do
  let hsize ← demand (attempts.length ≤ maxAuditAttempts) "audit_state_full"
    "audit state has reached its retention limit"
  let hids ← demandState (attempts.map fun attempt => attempt.attemptId).Nodup "audit attempt IDs are duplicated"
  return ⟨attempts, hsize.down, hids.down⟩

lemma make_eq_ok {attempts : List (AuditAttempt lib)} {state : AuditState lib} :
    make attempts = .ok state ↔ attempts = state.attempts := by
  simp only [make, demandState, Except.bind_eq_ok, demand_eq_ok]
  constructor
  · rintro ⟨_, _, _, _, h⟩
    obtain rfl := Except.ok.inj h
    rfl
  · rintro rfl
    exact ⟨⟨state.size⟩, state.size, ⟨state.ids_nodup⟩, state.ids_nodup, rfl⟩

/-- `AuditState._unsigned_document`. -/
def unsignedDocument (state : AuditState lib) : List (List Char × Value) :=
  [("attempts".toList, .list (state.attempts.map fun attempt => attempt.document)),
    ("schema".toList, .str "miss.computer/misscomputer-subnet/weight-execution-audit".toList),
    ("schema_version".toList, .int 1)]

/-- `AuditState.digest_sha256`. -/
def digestSha256 (state : AuditState lib) : List Char :=
  hexdigest (Text.bytes (lib.dumps (.dict state.unsignedDocument)))

/-- `AuditState.document`. -/
def document (state : AuditState lib) : Value :=
  .dict (state.unsignedDocument ++ [("digest_sha256".toList, .str state.digestSha256)])

/-- `AuditState.canonical_bytes`. -/
def canonicalBytes (state : AuditState lib) : List UInt8 := Text.bytes (lib.dumps state.document ++ ['\n'])

/-- `AuditStateStore.blocking_attempt`. -/
def blockingAttempt (state : AuditState lib) (planDigest : List Char) : Option (AuditAttempt lib) :=
  state.attempts.reverse.find? fun attempt => attempt.planDigestSha256 = planDigest ∧ attempt.Blocks

/-- The refusal of the barrier. -/
def idempotencyBlocked : ExecutionError :=
  .execution "idempotency_blocked" "this plan has a prior non-retryable or unresolved attempt"

/-- The document under an attempt id. -/
def attemptIdDocument (vector : ExecutionVector lib.toLibrary) (nonce timestamp : List Char) : Value :=
  .dict [("attempt_nonce".toList, .str nonce), ("execution_digest_sha256".toList, .str vector.digestSha256),
    ("plan_digest_sha256".toList, .str vector.planDigestSha256), ("started_at".toList, .str timestamp)]

/-- The id of an attempt. -/
def attemptId (vector : ExecutionVector lib.toLibrary) (nonce timestamp : List Char) : List Char :=
  hexdigest (Text.bytes (lib.dumps (attemptIdDocument vector nonce timestamp)))

/-- A new attempt. -/
def newAttempt (vector : ExecutionVector lib.toLibrary) (preflightBlock : ℤ) (timestamp nonce : List Char) :
    AttemptFields where
  attemptId := attemptId vector nonce timestamp
  attemptKey := executionAttemptKey lib vector.planDigestSha256 vector.digestSha256
  planDigestSha256 := vector.planDigestSha256
  executionDigestSha256 := vector.digestSha256
  network := vector.network
  netuid := vector.netuid
  validatorHotkey := vector.validatorHotkey
  versionKey := vector.versionKey
  preflightBlock := preflightBlock
  sendCheckBlock := none
  status := .inProgress
  submissionStarted := false
  startedAt := timestamp
  updatedAt := timestamp
  weights := vector.weights
  omitted := vector.omitted
  receipt := none

/-- `start_attempt`, up to the writing of the file: the new attempt and the new state. -/
def startAttempt (state : AuditState lib) (vector : ExecutionVector lib.toLibrary) (preflightBlock : ℤ)
    (timestamp nonce : List Char) : Except ExecutionError (AuditAttempt lib × AuditState lib) := do
  Except.reject ((state.blockingAttempt vector.planDigestSha256).isSome = true) idempotencyBlocked
  let _ ← demandState (IsTimestamp lib timestamp) "audit timestamp is invalid"
  let _ ← demandState (IsDigest nonce) "attempt nonce is invalid"
  let attempt ← AuditAttempt.make lib (newAttempt vector preflightBlock timestamp nonce)
  let state ← make (state.attempts ++ [attempt])
  return (attempt, state)

/-- `_update_attempt`, up to the writing of the file. -/
def updateAttempt (state : AuditState lib) (attemptId : List Char) (updated : AuditAttempt lib) :
    Except ExecutionError (AuditAttempt lib × AuditState lib) :=
  match state.attempts.filter fun item => item.attemptId = attemptId with
  | [current] => do
    let _ ← demandState (current.status = .inProgress) "audit attempt is already final"
    let state ← make (state.attempts.map fun item => if item.attemptId = attemptId then updated else item)
    return (updated, state)
  | _ => .error (invalidState "audit attempt is missing or duplicated")

/-- The attempt with an id. -/
def findAttempt (state : AuditState lib) (attemptId : List Char) : Except ExecutionError (AuditAttempt lib) :=
  match state.attempts.find? fun item => item.attemptId = attemptId with
  | none => .error (invalidState "audit attempt is missing")
  | some current => .ok current

/-- `mark_submission_started`, up to the writing of the file. -/
def markSubmissionStarted (state : AuditState lib) (attemptId : List Char) (sendCheckBlock : ℤ)
    (timestamp : List Char) : Except ExecutionError (AuditAttempt lib × AuditState lib) := do
  let current ← state.findAttempt attemptId
  let updated ← AuditAttempt.make lib { current.toAttemptFields with
    sendCheckBlock := some sendCheckBlock
    submissionStarted := true
    updatedAt := timestamp }
  state.updateAttempt attemptId updated

/-- `finish_attempt`, up to the writing of the file. -/
def finishAttempt (state : AuditState lib) (attemptId : List Char) (status : AuditStatus) (outcome : ReceiptOutcome)
    (extrinsicRef errorCode : Option (List Char)) (timestamp : List Char) :
    Except ExecutionError (AuditAttempt lib × AuditState lib) := do
  let current ← state.findAttempt attemptId
  let receipt ← AuditReceipt.make outcome extrinsicRef errorCode
  let updated ← AuditAttempt.make lib { current.toAttemptFields with
    status := status
    receipt := some receipt
    updatedAt := timestamp }
  state.updateAttempt attemptId updated

end AuditState

/-! ## The store -/

/-- How the storage takes a new state: it is stored, or refused, or in place although the store does not learn of it, or in
place and known although tidying up fails. -/
inductive Storing
  | stored
  | refused (e : ExecutionError)
  | unverified (e : ExecutionError)
  | untidy (e : ExecutionError)

/-- The file and a store over it. A store is current while the file is the one it has read or written. -/
structure AuditStore (lib : AuditLibrary) where
  file : AuditState lib
  state : AuditState lib
  current : Bool

/-- An operation, with how the storage takes it. -/
inductive AuditRequest (lib : AuditLibrary)
  | reopen
  | start (vector : ExecutionVector lib.toLibrary) (preflightBlock : ℤ) (timestamp nonce : List Char) (storing : Storing)
  | markStarted (attemptId : List Char) (sendCheckBlock : ℤ) (timestamp : List Char) (storing : Storing)
  | finish (attemptId : List Char) (status : AuditStatus) (outcome : ReceiptOutcome)
      (extrinsicRef errorCode : Option (List Char)) (timestamp : List Char) (storing : Storing)

namespace AuditStore

variable {lib : AuditLibrary}

/-- A store over a file that does not exist yet. -/
def empty (lib : AuditLibrary) : AuditStore lib := ⟨.empty lib, .empty lib, true⟩

/-- `_load`. -/
def reopen (store : AuditStore lib) : AuditStore lib := ⟨store.file, store.file, true⟩

/-- `_persist`. -/
def persist (store : AuditStore lib) (state : AuditState lib) (storing : Storing) :
    AuditStore lib × Except ExecutionError Unit :=
  if maxWeightPlanBytes < state.canonicalBytes.length then
    (store, .error (.execution "audit_state_full" "audit state exceeds its size limit"))
  else if store.current = false then
    (store, .error (.execution "audit_state_unsafe" "audit state changed before update"))
  else
    match storing with
    | .stored => (⟨state, state, true⟩, .ok ())
    | .refused e => (store, .error e)
    | .unverified e => (⟨state, store.state, false⟩, .error e)
    | .untidy e => (⟨state, state, true⟩, .error e)

/-- Write what an operation has prepared. -/
def commit (store : AuditStore lib) (prepared : Except ExecutionError (AuditAttempt lib × AuditState lib))
    (storing : Storing) : AuditStore lib × Except ExecutionError (AuditAttempt lib) :=
  match prepared with
  | .error e => (store, .error e)
  | .ok (attempt, state) => ((store.persist state storing).1, (store.persist state storing).2.map fun _ => attempt)

/-- One operation. -/
def serve (store : AuditStore lib) (request : AuditRequest lib) :
    AuditStore lib × Option (Except ExecutionError (AuditAttempt lib)) :=
  match request with
  | .reopen => (store.reopen, none)
  | .start vector preflightBlock timestamp nonce storing =>
    let (store, answer) := store.commit (store.state.startAttempt vector preflightBlock timestamp nonce) storing
    (store, some answer)
  | .markStarted attemptId sendCheckBlock timestamp storing =>
    let (store, answer) := store.commit (store.state.markSubmissionStarted attemptId sendCheckBlock timestamp) storing
    (store, some answer)
  | .finish attemptId status outcome extrinsicRef errorCode timestamp storing =>
    let (store, answer) := store.commit
      (store.state.finishAttempt attemptId status outcome extrinsicRef errorCode timestamp) storing
    (store, some answer)

/-- The store after some operations on a file that did not exist. -/
def run (lib : AuditLibrary) (requests : List (AuditRequest lib)) : AuditStore lib :=
  Machine.run serve (empty lib) requests

end AuditStore

/-! ## The barrier -/

/-- The computation does not end in the refusal of the barrier. -/
def Avoids {α : Type} (x : Except ExecutionError α) : Prop := x ≠ .error AuditState.idempotencyBlocked

section Avoids

variable {α β : Type} {lib : AuditLibrary}

lemma avoids_ok (a : α) : Avoids (.ok a) := by
  intro h
  cases h

lemma avoids_execution {code message : String} (h : code ≠ "idempotency_blocked") :
    Avoids (.error (.execution code message) : Except ExecutionError α) := by
  intro heq
  exact h (ExecutionError.execution.inj (Except.error.inj heq)).1

lemma avoids_demand {p : Prop} [Decidable p] {code message : String} (h : code ≠ "idempotency_blocked") :
    Avoids (demand p code message) := by
  rw [demand]
  split
  · exact avoids_ok _
  · exact avoids_execution h

lemma avoids_demandState {p : Prop} [Decidable p] {message : String} : Avoids (demandState p message) :=
  avoids_demand (by decide)

lemma Avoids.bind {x : Except ExecutionError α} {f : α → Except ExecutionError β} (hx : Avoids x)
    (hf : ∀ a, Avoids (f a)) : Avoids (x >>= f) := by
  cases x with
  | error e =>
    intro h
    exact hx (congrArg Except.error (Except.error.inj h))
  | ok a => exact hf a

lemma avoids_validatePublicNetwork {fieldName : String} {network : List Char} :
    Avoids (validatePublicNetwork lib.toLibrary fieldName network) := by
  unfold validatePublicNetwork
  split
  · exact avoids_ok _
  · exact avoids_execution (by decide)
  · intro h
    cases h

lemma avoids_executionVector {planDigest network validatorHotkey : List Char} {netuid versionKey : ℤ}
    {weights : List ExecutionWeight} {omitted : List OmittedWeight} :
    Avoids (ExecutionVector.make lib.toLibrary planDigest network netuid validatorHotkey versionKey weights omitted) := by
  have hnetwork : Avoids (ExecutionVector.validatePublicNetwork lib.toLibrary network) := by
    unfold ExecutionVector.validatePublicNetwork
    split
    · exact avoids_ok _
    · exact avoids_execution (by decide)
    · intro h
      cases h
  exact (avoids_demand (by decide)).bind fun _ => hnetwork.bind fun _ => (avoids_demand (by decide)).bind fun _ =>
    (avoids_demand (by decide)).bind fun _ => (avoids_demand (by decide)).bind fun _ =>
    (avoids_demand (by decide)).bind fun _ => (avoids_demand (by decide)).bind fun _ =>
    (avoids_demand (by decide)).bind fun _ => (avoids_demand (by decide)).bind fun _ =>
    (avoids_demand (by decide)).bind fun _ => (avoids_demand (by decide)).bind fun _ => avoids_ok _

lemma avoids_check (attempt : AttemptFields) : Avoids (attempt.check lib) := by
  have hsend : Avoids attempt.checkSendBlock := by
    unfold AttemptFields.checkSendBlock
    split
    · exact avoids_ok _
    · exact (avoids_demand (by decide)).bind fun _ => avoids_demandState.bind fun _ => avoids_ok _
  have hreceipt : Avoids attempt.checkReceipt := by
    unfold AttemptFields.checkReceipt
    split
    · exact avoids_demandState.bind fun _ => avoids_ok _
    · split
      · exact avoids_execution (by decide)
      · exact avoids_demandState.bind fun _ => avoids_ok _
  exact avoids_demandState.bind fun _ => avoids_demandState.bind fun _ => avoids_demandState.bind fun _ =>
    avoids_demandState.bind fun _ => avoids_demandState.bind fun _ => avoids_validatePublicNetwork.bind fun _ =>
    (avoids_demand (by decide)).bind fun _ => (avoids_demand (by decide)).bind fun _ =>
    (avoids_demand (by decide)).bind fun _ => (avoids_demand (by decide)).bind fun _ => hsend.bind fun _ =>
    avoids_demandState.bind fun _ => avoids_demandState.bind fun _ => avoids_demandState.bind fun _ =>
    avoids_executionVector.bind fun _ => avoids_demandState.bind fun _ => hreceipt.bind fun _ =>
    avoids_demandState.bind fun _ => avoids_demandState.bind fun _ => avoids_demandState.bind fun _ => avoids_ok _

lemma avoids_make (fields : AttemptFields) : Avoids (AuditAttempt.make lib fields) := by
  unfold AuditAttempt.make
  split
  · exact avoids_ok _
  · rename_i e he
    intro h
    exact avoids_check fields (he.trans (congrArg Except.error (Except.error.inj h)))

end Avoids

namespace AuditState

variable {lib : AuditLibrary} {state state' : AuditState lib} {attempt updated : AuditAttempt lib}
  {vector : ExecutionVector lib.toLibrary} {preflightBlock : ℤ} {planDigest timestamp nonce id : List Char}

/-- Some attempt of the plan blocks it. -/
def Blocked (attempts : List (AuditAttempt lib)) (planDigest : List Char) : Prop :=
  Barrier.Blocked (fun attempt : AuditAttempt lib => attempt.planDigestSha256) AuditAttempt.Blocks attempts planDigest

/-- Of the attempts of a plan only the last may block it. -/
def Guarded (state : AuditState lib) : Prop :=
  Barrier.Guarded (fun attempt : AuditAttempt lib => attempt.planDigestSha256) AuditAttempt.Blocks state.attempts

lemma blockingAttempt_eq_none : state.blockingAttempt planDigest = none ↔ ¬ Blocked state.attempts planDigest := by
  rw [blockingAttempt, List.find?_eq_none]
  constructor
  · rintro h ⟨attempt, hmem, hplan, hblocks⟩
    exact h attempt (List.mem_reverse.mpr hmem) (decide_eq_true ⟨hplan, hblocks⟩)
  · intro h attempt hmem hblocks
    exact h ⟨attempt, List.mem_reverse.mp hmem, of_decide_eq_true hblocks⟩

/-- **The barrier.** An attempt is refused on account of another one exactly when one blocks its plan.

**Proof sketch.** The barrier is the first check, and every later error has another code. -/
theorem startAttempt_eq_blocked :
    state.startAttempt vector preflightBlock timestamp nonce = .error idempotencyBlocked ↔
      state.blockingAttempt vector.planDigestSha256 ≠ none := by
  rw [← Option.isSome_iff_ne_none]
  constructor
  · intro h
    by_contra hfree
    refine Avoids.bind (x := Except.reject ((state.blockingAttempt vector.planDigestSha256).isSome = true)
      idempotencyBlocked) ?_ (fun _ => ?_) h
    · rw [Except.reject, if_neg hfree]
      exact avoids_ok ()
    · refine avoids_demandState.bind fun _ => avoids_demandState.bind fun _ => (avoids_make _).bind fun _ =>
        Avoids.bind ?_ fun _ => avoids_ok _
      exact (avoids_demand (by decide)).bind fun _ => avoids_demandState.bind fun _ => avoids_ok _
  · intro h
    rw [startAttempt, Except.reject, if_pos h]
    rfl

/-- The record of a failed attempt is valid, when the receipt says whether it had been submitted. -/
lemma valid_failed {fields : AttemptFields} {receipt : AuditReceipt} (h : fields.Valid lib)
    (hreceipt : receipt.outcome = if fields.submissionStarted then .definiteFailure else .preSendFailure)
    (htimestamp : IsTimestamp lib timestamp) :
    ({ fields with status := .failed, receipt := some receipt, updatedAt := timestamp } : AttemptFields).Valid lib := by
  refine ⟨h.id, h.key, h.plan, h.execution, h.key_eq, h.network, h.netuid, h.validator, h.version, h.preflight, h.send,
    h.started, htimestamp, h.weights_ne, h.vector, ?_, h.sent, h.unsent, ?_⟩
  · simp only [AttemptFields.checkReceipt, reduceCtorEq, if_false, demandState, Except.bind_eq_ok, demand_eq_ok]
    exact ⟨⟨hreceipt⟩, hreceipt, rfl⟩
  · simp

/-- **A started attempt** is appended, under a plan that is not blocked. -/
lemma startAttempt_eq_ok (h : state.startAttempt vector preflightBlock timestamp nonce = .ok (attempt, state')) :
    ¬ Blocked state.attempts attempt.planDigestSha256 ∧ state'.attempts = state.attempts ++ [attempt] := by
  simp only [startAttempt, Except.bind_eq_ok, Except.reject_eq_ok, Option.not_isSome_iff_eq_none,
    blockingAttempt_eq_none, AuditAttempt.make_eq_ok, make_eq_ok] at h
  obtain ⟨_, hfree, _, _, _, _, a, hfields, s, hattempts, heq⟩ := h
  obtain ⟨rfl, rfl⟩ := Prod.mk.inj (Except.ok.inj heq)
  refine ⟨?_, hattempts.symm⟩
  rw [← hfields]
  exact hfree

lemma attemptId_newAttempt :
    (newAttempt vector preflightBlock timestamp nonce).attemptId = attemptId vector nonce timestamp := by rw [newAttempt]

lemma planDigest_newAttempt :
    (newAttempt vector preflightBlock timestamp nonce).planDigestSha256 = vector.planDigestSha256 := by rw [newAttempt]

lemma status_newAttempt : (newAttempt vector preflightBlock timestamp nonce).status = .inProgress := rfl

/-- The record of a new attempt is valid. -/
lemma valid_newAttempt (htimestamp : IsTimestamp lib timestamp) (hblock : 0 ≤ preflightBlock ∧ preflightBlock ≤ maxBlock) :
    (newAttempt vector preflightBlock timestamp nonce).Valid lib := by
  have hid : IsDigest (attemptId vector nonce timestamp) := isDigest_hexdigest _
  have hkey : IsDigest (executionAttemptKey lib vector.planDigestSha256 vector.digestSha256) := isDigest_hexdigest _
  have hdigest : IsDigest vector.digestSha256 := isDigest_hexdigest _
  have hvector : ExecutionVector.make lib.toLibrary vector.planDigestSha256 vector.network vector.netuid
      vector.validatorHotkey vector.versionKey vector.weights vector.omitted = .ok vector :=
    ExecutionVector.make_eq_ok.mpr ⟨rfl, rfl, rfl, rfl, rfl, rfl, rfl⟩
  rw [newAttempt]
  exact
    { id := by simp only; exact hid
      key := by simp only; exact hkey
      plan := by simp only; exact vector.digest
      execution := by simp only; exact hdigest
      key_eq := by simp only
      network := vector.network_valid
      netuid := vector.netuid_range
      validator := vector.validator_text
      version := vector.version_range
      preflight := hblock
      send := rfl
      started := htimestamp
      updated := htimestamp
      weights_ne := vector.weights_ne
      vector := ⟨vector, hvector, by simp only⟩
      receipt := rfl
      sent := by simp
      unsent := by simp
      submitted := by simp }

/-- **An attempt is started** when no other one blocks its plan, its arguments are well formed, and the ledger has room for it
and does not know its id. -/
theorem startAttempt_of_free (hfree : state.blockingAttempt vector.planDigestSha256 = none)
    (htimestamp : IsTimestamp lib timestamp) (hnonce : IsDigest nonce)
    (hblock : 0 ≤ preflightBlock ∧ preflightBlock ≤ maxBlock) (hroom : state.attempts.length < maxAuditAttempts)
    (hnew : ∀ attempt ∈ state.attempts, attempt.attemptId ≠ attemptId vector nonce timestamp) :
    ∃ attempt state', state.startAttempt vector preflightBlock timestamp nonce = .ok (attempt, state') ∧
      attempt.toAttemptFields = newAttempt vector preflightBlock timestamp nonce ∧
      state'.attempts = state.attempts ++ [attempt] := by
  have hcheck : (newAttempt vector preflightBlock timestamp nonce).check lib = .ok () :=
    AttemptFields.check_eq_ok.mpr (valid_newAttempt htimestamp hblock)
  obtain ⟨attempt, hattempt⟩ : ∃ attempt : AuditAttempt lib,
      attempt.toAttemptFields = newAttempt vector preflightBlock timestamp nonce := ⟨⟨_, hcheck⟩, rfl⟩
  have hid : attempt.attemptId = attemptId vector nonce timestamp := by rw [hattempt, attemptId_newAttempt]
  have hids : ((state.attempts ++ [attempt]).map fun item => item.attemptId).Nodup := by
    rw [List.map_append, List.map_singleton]
    refine List.Nodup.append state.ids_nodup (List.nodup_singleton _) ?_
    intro x hx hx'
    obtain ⟨item, hitem, rfl⟩ := List.mem_map.mp hx
    exact hnew item hitem ((List.mem_singleton.mp hx').trans hid)
  have hsize : (state.attempts ++ [attempt]).length ≤ maxAuditAttempts := by
    rw [List.length_append, List.length_singleton]
    exact hroom
  refine ⟨attempt, ⟨state.attempts ++ [attempt], hsize, hids⟩, ?_, hattempt, rfl⟩
  simp only [startAttempt, demandState, Except.bind_eq_ok, Except.reject_eq_ok, Option.not_isSome_iff_eq_none,
    demand_eq_ok, AuditAttempt.make_eq_ok, make_eq_ok]
  refine ⟨(), hfree, ⟨htimestamp⟩, htimestamp, ⟨hnonce⟩, hnonce, attempt, hattempt.symm, ⟨_, hsize, hids⟩, rfl, rfl⟩

lemma findAttempt_eq_ok : state.findAttempt id = .ok attempt ↔
    (state.attempts.find? fun item => item.attemptId = id) = some attempt := by
  rw [findAttempt]
  cases state.attempts.find? fun item => item.attemptId = id with
  | none => simp
  | some current => simp

/-- **An updated attempt** was under way, and stays where it was.

**Proof sketch.** The ids are distinct, so the attempt is the only one with its id, and the others are left alone. -/
lemma updateAttempt_eq_ok {answer : AuditAttempt lib} (hfind : state.findAttempt id = .ok attempt)
    (h : state.updateAttempt id updated = .ok (answer, state')) :
    attempt.status = .inProgress ∧ ∃ before after, state.attempts = before ++ attempt :: after ∧
      state'.attempts = before ++ updated :: after := by
  have hattempt := findAttempt_eq_ok.mp hfind
  have hid : attempt.attemptId = id := by simpa using List.find?_some hattempt
  unfold updateAttempt at h
  split at h
  · rename_i current hfilter
    have hmem : attempt ∈ state.attempts.filter fun item => item.attemptId = id :=
      List.mem_filter.mpr ⟨List.mem_of_find?_eq_some hattempt, decide_eq_true hid⟩
    rw [hfilter] at hmem
    obtain rfl := List.mem_singleton.mp hmem
    obtain ⟨before, after, hsplit, hbefore, -, hafter⟩ := List.filter_eq_cons_iff.mp hfilter
    simp only [demandState, Except.bind_eq_ok, demand_eq_ok, make_eq_ok] at h
    obtain ⟨_, hstatus, s, hattempts, heq⟩ := h
    obtain ⟨rfl, rfl⟩ := Prod.mk.inj (Except.ok.inj heq)
    refine ⟨hstatus, before, after, hsplit, ?_⟩
    have hother : ∀ l : List (AuditAttempt lib), (∀ x ∈ l, x.attemptId ≠ id) →
        (l.map fun item => if item.attemptId = id then updated else item) = l := by
      intro l hl
      refine (List.map_congr_left fun x hx => if_neg (hl x hx)).trans l.map_id
    rw [← hattempts, hsplit, List.map_append, List.map_cons, if_pos hid, hother before, hother after]
    · exact fun x hx => of_decide_eq_false (Bool.eq_false_iff.mpr (List.filter_eq_nil_iff.mp hafter x hx))
    · exact fun x hx => of_decide_eq_false (Bool.eq_false_iff.mpr (hbefore x hx))
  · cases h

/-- **An attempt is updated** while it is under way, if the updated record is valid and keeps the id. -/
lemma updateAttempt_of_running (hfind : state.findAttempt id = .ok attempt) (hstatus : attempt.status = .inProgress)
    (hid : updated.attemptId = id) :
    ∃ state', state.updateAttempt id updated = .ok (updated, state') ∧
      state'.attempts = state.attempts.map fun item => if item.attemptId = id then updated else item := by
  have hattempt := findAttempt_eq_ok.mp hfind
  have hattemptId : attempt.attemptId = id := by simpa using List.find?_some hattempt
  have hfilter : (state.attempts.filter fun item => item.attemptId = id) = [attempt] := by
    rw [← hattemptId]
    exact Dict.filter_eq_singleton state.ids_nodup (List.mem_of_find?_eq_some hattempt)
  have hids : (state.attempts.map fun item => if item.attemptId = id then updated else item).map
      (fun item => item.attemptId) = state.attempts.map fun item => item.attemptId := by
    rw [List.map_map]
    refine List.map_congr_left fun item _ => ?_
    by_cases h : item.attemptId = id
    · simp [h, hid]
    · simp [h]
  refine ⟨⟨state.attempts.map fun item => if item.attemptId = id then updated else item, ?_, ?_⟩, ?_, rfl⟩
  · rw [List.length_map]
    exact state.size
  · rw [hids]
    exact state.ids_nodup
  · rw [updateAttempt, hfilter]
    simp only [demandState, Except.bind_eq_ok, demand_eq_ok, make_eq_ok]
    exact ⟨⟨hstatus⟩, hstatus, _, rfl, rfl⟩

/-- **The step lemma of the ledger, for new attempts.** -/
lemma Guarded.start (h : state.Guarded)
    (hstart : state.startAttempt vector preflightBlock timestamp nonce = .ok (attempt, state')) : state'.Guarded := by
  obtain ⟨hfree, hattempts⟩ := startAttempt_eq_ok hstart
  rw [Guarded, hattempts]
  exact Barrier.Guarded.concat h hfree

/-- **The step lemma of the ledger, for changed attempts.** An attempt that is under way blocks its plan. -/
lemma Guarded.change {answer : AuditAttempt lib} (h : state.Guarded) (hfind : state.findAttempt id = .ok attempt)
    (hplan : updated.planDigestSha256 = attempt.planDigestSha256)
    (hupdate : state.updateAttempt id updated = .ok (answer, state')) : state'.Guarded := by
  obtain ⟨hstatus, before, after, hsplit, hattempts⟩ := updateAttempt_eq_ok hfind hupdate
  have hblocks : attempt.Blocks := .inl (by rw [hstatus]; decide)
  rw [Guarded, hsplit] at h
  rw [Guarded, hattempts]
  exact h.update hblocks hplan

lemma Guarded.markStarted {sendCheckBlock : ℤ} (h : state.Guarded)
    (hmark : state.markSubmissionStarted id sendCheckBlock timestamp = .ok (attempt, state')) : state'.Guarded := by
  simp only [markSubmissionStarted, Except.bind_eq_ok, AuditAttempt.make_eq_ok] at hmark
  obtain ⟨current, hfind, updated, hfields, hupdate⟩ := hmark
  refine h.change hfind ?_ hupdate
  rw [← hfields]

lemma Guarded.finish {status : AuditStatus} {outcome : ReceiptOutcome} {extrinsicRef errorCode : Option (List Char)}
    (h : state.Guarded)
    (hfinish : state.finishAttempt id status outcome extrinsicRef errorCode timestamp = .ok (attempt, state')) :
    state'.Guarded := by
  simp only [finishAttempt, Except.bind_eq_ok, AuditAttempt.make_eq_ok] at hfinish
  obtain ⟨current, hfind, receipt, -, updated, hfields, hupdate⟩ := hfinish
  refine h.change hfind ?_ hupdate
  rw [← hfields]

end AuditState

namespace AuditStore

variable {lib : AuditLibrary} {store : AuditStore lib}

/-- **The invariant of a store**: the file and what is known of it are guarded, and they are the same while the store is
current. -/
structure Sound (store : AuditStore lib) : Prop where
  file : store.file.Guarded
  state : store.state.Guarded
  same : store.current = true → store.state = store.file

/-- The invariant holds of the initial store. -/
lemma sound_empty : (empty lib).Sound := ⟨Barrier.guarded_nil, Barrier.guarded_nil, fun _ => rfl⟩

/-- Writing a guarded state keeps the invariant, however the storage takes it. -/
lemma Sound.persist {state : AuditState lib} {storing : Storing} (h : store.Sound) (hstate : state.Guarded) :
    (store.persist state storing).1.Sound := by
  unfold AuditStore.persist
  split
  · exact h
  · split
    · exact h
    · cases storing with
      | stored => exact ⟨hstate, hstate, fun _ => rfl⟩
      | refused e => exact h
      | unverified e => exact ⟨hstate, h.state, fun hcurrent => absurd hcurrent (by simp)⟩
      | untidy e => exact ⟨hstate, hstate, fun _ => rfl⟩

lemma Sound.commit {prepared : Except ExecutionError (AuditAttempt lib × AuditState lib)} {storing : Storing}
    (h : store.Sound) (hprepared : ∀ r, prepared = .ok r → r.2.Guarded) : (store.commit prepared storing).1.Sound := by
  cases hcase : prepared with
  | error e => exact h
  | ok r =>
    obtain ⟨attempt, state⟩ := r
    have hpersist : (store.persist state storing).1.Sound := h.persist (hprepared _ hcase)
    simp only [AuditStore.commit]
    exact hpersist

/-- **The step lemma of the store.** Every operation keeps the invariant. -/
theorem Sound.serve (h : store.Sound) (request : AuditRequest lib) : (store.serve request).1.Sound := by
  cases request with
  | reopen => exact ⟨h.file, h.file, fun _ => rfl⟩
  | start vector preflightBlock timestamp nonce storing => exact h.commit fun r hr => h.state.start hr
  | markStarted attemptId sendCheckBlock timestamp storing => exact h.commit fun r hr => h.state.markStarted hr
  | finish attemptId status outcome extrinsicRef errorCode timestamp storing =>
    exact h.commit fun r hr => h.state.finish hr

/-- **The run lemma of the store.** -/
theorem sound_run (requests : List (AuditRequest lib)) : (run lib requests).Sound :=
  Machine.run_invariant (fun _ h request _ => h.serve request) sound_empty

end AuditStore

end Weights

end Misscomputer
