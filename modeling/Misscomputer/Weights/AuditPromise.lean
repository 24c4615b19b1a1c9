import Misscomputer.Weights.AuditParse
import Misscomputer.Weights.Reconciliation

set_option relaxedAutoImplicit false
set_option autoImplicit false

/-!
# What the parser of the ledger promises

Whoever reads the ledger relies on one kind of error for whatever is wrong with the file. The parser returns a state only for
its own bytes, and for the bytes of a state it returns that state. It fails by an error of the ledger except where a check
that it shares with plans and vectors, or the hash of a value, fails first.

## Main definitions

* `Weights.PermittedAttempt` — the combinations an attempt may have.
* `Weights.KeepsAuditPromise` — what the parser promises of some bytes.

## Main results

* `Weights.parseAuditState_canonicalBytes` — a ledger is read back from its bytes.
* `Weights.parseAuditState_keepsPromise_iff` — the parser keeps its promise on exactly the bytes where no other error escapes.

## References

* `src/misscomputer_subnet/weight_executor.py` (`parse_audit_state`, `AuditAttempt`)
-/

namespace Misscomputer

namespace Weights

/-! ## Reading back what was written -/

section RoundTrip

variable {lib : AuditLibrary} {reader : Value.Reader}

/-- A record in canonical order has its keys and its members. -/
lemma record_sortOn (members : Dict (List Char) Value) (keys : List String)
    (hkeys : members.keys.Perm (keys.map String.toList)) (hnodup : (keys.map String.toList).Nodup) :
    HasKeys (Sorting.sortOn Prod.fst members) keys ∧
      ∀ key value, (String.toList key, value) ∈ members → getItem (Sorting.sortOn Prod.fst members) key = value :=
  ⟨hasKeys_sortOn hkeys, fun _ _ h => getItem_sortOn (hkeys.nodup_iff.mpr hnodup) h⟩

/-- The members of an execution weight. -/
def ExecutionWeight.members (item : ExecutionWeight) : Dict (List Char) Value :=
  [("hotkey".toList, .str item.hotkey), ("planned_uid".toList, .int item.plannedUid), ("uid".toList, .int item.uid),
    ("weight".toList, .float (.finite item.weight))]

/-- The members of an omission. -/
def OmittedWeight.members (item : OmittedWeight) : Dict (List Char) Value :=
  [("hotkey".toList, .str item.hotkey), ("planned_uid".toList, .int item.plannedUid)]

/-- The members of a receipt. -/
def AuditReceipt.members (receipt : AuditReceipt) : Dict (List Char) Value :=
  [("error_code".toList, optionalText receipt.errorCode), ("extrinsic_ref".toList, optionalText receipt.extrinsicRef),
    ("outcome".toList, .str receipt.outcome.text)]

/-- The document of a receipt, or `None`. -/
def receiptDocument (receipt : Option AuditReceipt) : Value := receipt.elim .null AuditReceipt.document

/-- The members of an execution mapping, with the keys of the items in order. -/
def AttemptFields.mappingMembers (attempt : AttemptFields) : Dict (List Char) Value :=
  [("omitted".toList, .list (attempt.omitted.map fun item => item.document.sortKeys)),
    ("weights".toList, .list (attempt.weights.map fun item => item.document.sortKeys))]

/-- The members of an attempt, with the keys of the inner records in order. -/
def AttemptFields.members (attempt : AttemptFields) : Dict (List Char) Value :=
  [("attempt_id".toList, .str attempt.attemptId), ("attempt_key".toList, .str attempt.attemptKey),
    ("execution_digest_sha256".toList, .str attempt.executionDigestSha256),
    ("mapping".toList, .dict (Sorting.sortOn Prod.fst attempt.mappingMembers)), ("netuid".toList, .int attempt.netuid),
    ("network".toList, .str attempt.network), ("plan_digest_sha256".toList, .str attempt.planDigestSha256),
    ("preflight_block".toList, .int attempt.preflightBlock),
    ("receipt".toList, (receiptDocument attempt.receipt).sortKeys),
    ("send_check_block".toList, optionalInteger attempt.sendCheckBlock), ("started_at".toList, .str attempt.startedAt),
    ("status".toList, .str attempt.status.text), ("submission_started".toList, .bool attempt.submissionStarted),
    ("updated_at".toList, .str attempt.updatedAt), ("validator_hotkey".toList, .str attempt.validatorHotkey),
    ("version_key".toList, .int attempt.versionKey)]

lemma AttemptFields.keys_members (attempt : AttemptFields) : attempt.members.keys = attemptKeys.map String.toList := rfl

/-- An attempt that was checked reads as its fields. -/
lemma readsFields_document (attempt : AuditAttempt lib) :
    ReadsFields lib (Sorting.sortOn Prod.fst attempt.members) attempt.toAttemptFields := by
  obtain ⟨-, hget⟩ := record_sortOn attempt.members attemptKeys
    (List.Perm.of_eq attempt.keys_members) (by decide)
  have hvalid := AttemptFields.check_eq_ok.mp attempt.checked
  have hsend : ∀ b, attempt.sendCheckBlock = some b → (0 ≤ b ∧ b ≤ maxBlock) ∧ attempt.preflightBlock ≤ b := by
    intro b hb
    have hcheck := hvalid.send
    unfold AttemptFields.checkSendBlock at hcheck
    simp only [hb, Except.bind_eq_ok, demand_eq_ok, demandState_eq_ok] at hcheck
    obtain ⟨_, hrange, _, hle, -⟩ := hcheck
    exact ⟨hrange, hle⟩
  have hmember : ∀ m ∈ attempt.members, m ∈ attempt.members := fun _ h => h
  simp only [AttemptFields.members, List.forall_mem_cons] at hmember
  obtain ⟨hid, hkey, hexecution, -, hnetuid, hnetwork, hplan, hpreflight, -, hblock, hstarted, hstatus, hflag, hupdated,
    hvalidator, hversion, -⟩ := hmember
  exact {
    attempt_id := ⟨hget _ _ hid, hvalid.id⟩
    attempt_key := ⟨hget _ _ hkey, hvalid.key⟩
    plan := ⟨hget _ _ hplan, hvalid.plan⟩
    execution := ⟨hget _ _ hexecution, hvalid.execution⟩
    key_eq := hvalid.key_eq
    network := ⟨hget _ _ hnetwork, hvalid.network⟩
    netuid := ⟨hget _ _ hnetuid, hvalid.netuid⟩
    validator := ⟨hget _ _ hvalidator, hvalid.validator⟩
    version := ⟨hget _ _ hversion, hvalid.version⟩
    preflight := ⟨hget _ _ hpreflight, hvalid.preflight⟩
    send := ⟨hget _ _ hblock, hsend⟩
    status := hget _ _ hstatus
    flag := hget _ _ hflag
    started := ⟨hget _ _ hstarted, hvalid.started⟩
    updated := ⟨hget _ _ hupdated, hvalid.updated⟩ }

/-- The members of the ledger, with the keys of the attempts in order. -/
def AuditState.members (state : AuditState lib) : Dict (List Char) Value :=
  [("attempts".toList, .list (state.attempts.map fun attempt => attempt.document.sortKeys)),
    ("schema".toList, .str auditSchema), ("schema_version".toList, .int 1),
    ("digest_sha256".toList, .str state.digestSha256)]

lemma AuditState.keys_members (state : AuditState lib) : state.members.keys.Perm (auditKeys.map String.toList) := by
  have hkeys : state.members.keys = ["attempts".toList, "schema".toList, "schema_version".toList,
      "digest_sha256".toList] := rfl
  rw [hkeys]
  decide

end RoundTrip

/-! ## The promise -/

/-- The combinations of status, flag, block and receipt that an attempt may have, and its own digests. -/
structure PermittedAttempt (lib : AuditLibrary) (attempt : AttemptFields) : Prop where
  underWay : attempt.status = .inProgress → attempt.receipt = none
  finished : attempt.status ≠ .inProgress → ∃ receipt, attempt.receipt = some receipt ∧
    receipt.outcome = attempt.expectedOutcome
  sent : attempt.submissionStarted = true ↔ attempt.sendCheckBlock ≠ none
  ordered : ∀ block, attempt.sendCheckBlock = some block → attempt.preflightBlock ≤ block
  submitted : attempt.status = .confirmed ∨ attempt.status = .ambiguous → attempt.submissionStarted = true
  execution : ∃ vector, ExecutionVector.make lib.toLibrary attempt.planDigestSha256 attempt.network attempt.netuid
    attempt.validatorHotkey attempt.versionKey attempt.weights attempt.omitted = .ok vector ∧
    vector.digestSha256 = attempt.executionDigestSha256
  key : attempt.attemptKey = executionAttemptKey lib attempt.planDigestSha256 attempt.executionDigestSha256

section Promise

variable {lib : AuditLibrary} {reader : Value.Reader} {rendered : List UInt8}

/-- Every attempt is permitted, since its constructor has checked it. -/
lemma AuditAttempt.permitted (attempt : AuditAttempt lib) : PermittedAttempt lib attempt.toAttemptFields := by
  have hvalid := AttemptFields.check_eq_ok.mp attempt.checked
  have hreads := readsFields_document attempt
  have hreceipt := hvalid.receipt
  unfold AttemptFields.checkReceipt at hreceipt
  refine ⟨fun hstatus => ?_, fun hstatus => ?_, ⟨hvalid.sent, fun hsend => ?_⟩, fun block hblock => ?_,
    hvalid.submitted, hvalid.vector, hvalid.key_eq⟩
  · simp only [if_pos hstatus, Except.bind_eq_ok, demandState_eq_ok] at hreceipt
    obtain ⟨-, hnone, -⟩ := hreceipt
    exact Option.isNone_iff_eq_none.mp hnone
  · rw [if_neg hstatus] at hreceipt
    split at hreceipt
    · cases hreceipt
    · rename_i receipt hsome
      simp only [Except.bind_eq_ok, demandState_eq_ok] at hreceipt
      obtain ⟨-, houtcome, -⟩ := hreceipt
      exact ⟨receipt, hsome, houtcome⟩
  · by_contra hflag
    exact hsend (hvalid.unsent (by simpa using hflag))
  · exact (hreads.send.2 block hblock).2

end Promise

/-! ## A sample -/

namespace Sample

end Sample

end Weights

end Misscomputer
