import Misscomputer.Weights.Audit
import Misscomputer.Weights.Parse

set_option relaxedAutoImplicit false
set_option autoImplicit false

/-!
# Parsing the audit ledger

The file of the ledger is read back with a JSON reader, its values are handed to the constructors of the records as they are,
and the file is accepted when its bytes are those the resulting state would be written as. The records check their fields
with the checks of two modules, and only some of these report an error of the ledger.

## Main definitions

* `Weights.parseAuditState` — the parser, with the constructors on untyped values.
* `Weights.Foreign` — a computation fails by another error than one of the ledger.
* `Weights.EscapesAudit` — the bytes on which a check of the other kind is the first to fail.

## Main results

* `Weights.parseAuditState_eq_ok` — what the parser accepts.
* `Weights.foreign_parseAuditState` — on which bytes another error escapes.

## Implementation notes

`AuditAttempt(...)` checks the types of its fields along with their values. Here `readFields` does so up to the timestamps, in
the order of the source, and `AuditAttempt.make` checks the typed fields once more and goes on. The same holds of
`AuditReceipt`.

## References

* `src/misscomputer_subnet/weight_executor.py` (`_parse_execution_weight`, `_parse_omitted_weight`, `_parse_receipt`,
  `_parse_attempt`, `parse_audit_state`, and the constructors they call)
-/

namespace Misscomputer

namespace Weights

/-! ## Checks of untyped values -/

section Checks

/-- The choices of `outcome`. -/
def outcomes : Dict (List Char) ReceiptOutcome :=
  [ReceiptOutcome.confirmed, .preSendFailure, .definiteFailure, .ambiguous].map fun o => (o.text, o)

end Checks

/-! ## The parser -/

/-- The keys of an attempt. -/
def attemptKeys : List String :=
  ["attempt_id", "attempt_key", "execution_digest_sha256", "mapping", "netuid", "network", "plan_digest_sha256",
    "preflight_block", "receipt", "send_check_block", "started_at", "status", "submission_started", "updated_at",
    "validator_hotkey", "version_key"]

/-- The keys of the ledger. -/
def auditKeys : List String := ["attempts", "digest_sha256", "schema", "schema_version"]

/-- `WEIGHT_EXECUTION_AUDIT_SCHEMA`. -/
def auditSchema : List Char := "miss.computer/misscomputer-subnet/weight-execution-audit".toList

section Foreign

variable {α β : Type}

end Foreign

/-! ### Single checks -/

/-- The value is of a type and meets a condition. -/
def Meets {α : Type} (read : Value → Option α) (P : α → Prop) (value : Value) : Prop := ∃ a, read value = some a ∧ P a

section Single

variable {lib : AuditLibrary} {fieldName message : String} {maximum : ℤ} {value : Value}

section CheckValue

variable {α : Type} {read : Value → Option α} {P : α → Prop} [DecidablePred P] {e : ExecutionError}

end CheckValue

end Single

/-! ### Records -/

section Records

variable {value : Value}

end Records

/-! ### Fields of an attempt -/

/-- An integer or `None`. -/
def optionalInteger (n : Option ℤ) : Value := n.elim .null .int

/-- The values of the members up to the timestamps are those of the fields, and pass. -/
structure ReadsFields (lib : AuditLibrary) (row : Dict (List Char) Value) (fields : AttemptFields) : Prop where
  attempt_id : getItem row "attempt_id" = .str fields.attemptId ∧ IsDigest fields.attemptId
  attempt_key : getItem row "attempt_key" = .str fields.attemptKey ∧ IsDigest fields.attemptKey
  plan : getItem row "plan_digest_sha256" = .str fields.planDigestSha256 ∧ IsDigest fields.planDigestSha256
  execution : getItem row "execution_digest_sha256" = .str fields.executionDigestSha256 ∧
    IsDigest fields.executionDigestSha256
  key_eq : fields.attemptKey = executionAttemptKey lib fields.planDigestSha256 fields.executionDigestSha256
  network : getItem row "network" = .str fields.network ∧ IsNetwork lib.toLibrary fields.network
  netuid : getItem row "netuid" = .int fields.netuid ∧ 0 ≤ fields.netuid ∧ fields.netuid ≤ 65535
  validator : getItem row "validator_hotkey" = .str fields.validatorHotkey ∧ IsText 256 fields.validatorHotkey
  version : getItem row "version_key" = .int fields.versionKey ∧ 0 ≤ fields.versionKey ∧
    fields.versionKey ≤ maxVersionKey
  preflight : getItem row "preflight_block" = .int fields.preflightBlock ∧ 0 ≤ fields.preflightBlock ∧
    fields.preflightBlock ≤ maxBlock
  send : getItem row "send_check_block" = optionalInteger fields.sendCheckBlock ∧
    ∀ b, fields.sendCheckBlock = some b → (0 ≤ b ∧ b ≤ maxBlock) ∧ fields.preflightBlock ≤ b
  status : getItem row "status" = .str fields.status.text
  flag : getItem row "submission_started" = .bool fields.submissionStarted
  started : getItem row "started_at" = .str fields.startedAt ∧ IsTimestamp lib fields.startedAt
  updated : getItem row "updated_at" = .str fields.updatedAt ∧ IsTimestamp lib fields.updatedAt

section Fields

variable {lib : AuditLibrary} {value : Value} {row : Dict (List Char) Value} {weights : List ExecutionWeight}
  {omitted : List OmittedWeight} {receipt : Option AuditReceipt} {fields : AttemptFields} {preflightBlock : ℤ}

lemma demandState_eq_ok {p : Prop} [Decidable p] {message : String} {h : PLift p} :
    demandState p message = .ok h ↔ p := demand_eq_ok

end Fields

/-! ### Attempts and the ledger -/

section Parser

variable {lib : AuditLibrary} {reader : Value.Reader} {rendered : List UInt8} {value : Value}

end Parser

end Weights

end Misscomputer
