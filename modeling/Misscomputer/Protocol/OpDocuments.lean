import Misscomputer.Protocol.Documents
import Misscomputer.Lib.Except

set_option relaxedAutoImplicit false
set_option autoImplicit false

/-!
# The sandbox-ops-v1 documents

The validator-signed op request and the miner-signed op receipt, with their shape checks, the
identity fence between an op and its lease, the validator's acceptance check of a receipt, and the
rule by which an `exec_not_found` receipt is definitive.

The op, the receipt stage and the exec state are enumerations; a document with any other text fails
its check before anything else reads it.

## Main definitions

* `Protocol.SandboxOpRequestV1`, `Protocol.SandboxOpReceiptV1` — the documents.
* `Protocol.sandboxOpIDV1` — the replay identity of an op.
* `Protocol.sandboxOpTargetsLeaseV1` — the op names that exact lease.
* `Protocol.sandboxExecNeverStartedV1` — the definitive non-start rule.

## Main results

* `Protocol.leaseID_of_execID` — the exec a valid request names is on the lease of its op ID.
* `Protocol.sandboxExecNeverStartedV1_spec` — what an accepted `exec_not_found` receipt says.

## References

* `pkg/protocol/sandbox_ops_v1.go`, `pkg/sandbox/ops_v1.go`
-/

namespace Misscomputer.Sandbox

/-! ## Ops, stages and exec states -/

inductive Op
  | execStart | execRead | execCancel | fileWrite | fileRead | fileStat | fileList | fileRemove
  | fileMkdir
  deriving DecidableEq, Repr

def Op.text : Op → String
  | .execStart => "exec_start"
  | .execRead => "exec_read"
  | .execCancel => "exec_cancel"
  | .fileWrite => "file_write"
  | .fileRead => "file_read"
  | .fileStat => "file_stat"
  | .fileList => "file_list"
  | .fileRemove => "file_remove"
  | .fileMkdir => "file_mkdir"

/-- The states of an exec. `admitted` is a durable state only: no receipt carries it. -/
inductive ExecState
  | admitted | running | exited | cancelled | timedOut | failed
  deriving DecidableEq, Repr

inductive OpStage
  | completed | running | exited | cancelled | timedOut | refused | failed
  deriving DecidableEq, Repr

/-- `ExecStatus`: the miner's view of one exec session. -/
structure ExecStatus where
  endedAt : Option ℤ
  exitCode : Option ℤ
  startedAt : ℤ
  state : ExecState
  stderrBytes : ℕ
  stderrRetained : ℕ
  stdoutBytes : ℕ
  stdoutRetained : ℕ
  deriving DecidableEq, Repr

/-- `FileInfo`: one sandbox path. -/
structure FileInfo where
  mode : ℕ
  size : ℕ
  type : String
  deriving DecidableEq, Repr

/-! ## Bounds -/

def maxChunkBytes : ℕ := 524288

def maxFileWriteBytes : ℕ := 268435456

def maxListEntries : ℕ := 1000

def minExecTimeoutMS : ℕ := 1000

def maxExecTimeoutMS : ℕ := 86400000

def minExecOutputBytes : ℕ := 1024

def maxExecOutputBytes : ℕ := 16777216

def maxSafeInteger : ℕ := 2 ^ 53 - 1

def maxListCursor : ℕ := 65536

def maxFileModeBits : ℕ := 0o777

def maxPathBytes : ℕ := 4096

def maxPathComponent : ℕ := 255

/-- The components of a path between its slashes. -/
def pathComponents : List Char → List (List Char)
  | [] => [[]]
  | c :: rest =>
    match pathComponents rest with
    | [] => [[c]]
    | p :: ps => if c = '/' then [] :: p :: ps else (c :: p) :: ps

/-- `ValidOpPath`: absolute, printable ASCII, no empty, dot or oversized component. -/
def validOpPath (path : String) (allowRoot : Bool) : Except String Unit :=
  if path.utf8ByteSize = 0 ∨ path.utf8ByteSize > maxPathBytes ∨ path.toList.head? ≠ some '/' then
    .error "sandbox path must be absolute and at most 4096 bytes"
  else if ¬ path.toList.all (fun c => 0x20 ≤ c.toNat && c.toNat ≤ 0x7e) then
    .error "sandbox path must be printable ASCII"
  else if path = "/" then
    if ¬ allowRoot then .error "sandbox path must not be the root" else .ok ()
  else if (pathComponents (path.toList.drop 1)).any fun c =>
      c = [] || c = ['.'] || c = ['.', '.'] || c.length > maxPathComponent then
    .error "sandbox path has an empty, dot or oversized component"
  else .ok ()

/-- `ValidFileType`. -/
def validFileType (value : String) : Bool := ["file", "directory", "symlink", "other"].contains value

end Misscomputer.Sandbox

namespace Misscomputer.Protocol

open Sandbox Except

/-! ## The documents -/

/-- `SandboxOpRequestV1`: one operation on one running lease. -/
structure SandboxOpRequestV1 where
  execID : Option String
  expiresAt : ℤ
  generation : ℕ
  issuedAt : ℤ
  leaseDigest : String
  leaseID : String
  limit : Option ℕ
  maxOutputBytes : Option ℕ
  minerID : String
  mode : Option ℕ
  offset : Option ℕ
  op : Op
  opNonce : String
  path : Option String
  payloadBytes : ℕ
  payloadDigest : Option String
  recursive : Option Bool
  sandboxID : String
  schema : String
  schemaVersion : ℤ
  signature : String
  stream : Option String
  subnet : Option StaticSubnetBindingV1
  timeoutMS : Option ℕ
  workloadKind : String
  deriving DecidableEq, Repr

/-- `SandboxOpReceiptV1`: the miner's answer to one op request. -/
structure SandboxOpReceiptV1 where
  documentDigest : String
  eof : Bool
  errorCode : Option String
  exec : Option ExecStatus
  file : Option FileInfo
  generation : ℕ
  leaseID : String
  minerID : String
  nextOffset : Option ℕ
  observedAt : ℤ
  op : Op
  opID : String
  resultBytes : ℕ
  resultDigest : Option String
  sandboxID : String
  schema : String
  schemaVersion : ℤ
  signature : String
  stage : OpStage
  subnet : Option StaticSubnetBindingV1
  deriving DecidableEq, Repr

/-- What the op documents take from outside the model, next to `Wire`. -/
structure OpWire extends Wire where
  /-- `SandboxOpDigestV1` of a request. -/
  opDigest : SandboxOpRequestV1 → Option String
  /-- `SandboxContentDigestV1`. -/
  contentDigest : List UInt8 → String
  /-- `decodeListResult`: the number of entries of a valid listing. -/
  decodeListResult : List UInt8 → Option ℕ
  /-- `verifyStatic` of a receipt, against the public key with the given hex text. -/
  verifyReceipt : SandboxOpReceiptV1 → String → Bool

/-- `SandboxOpIDV1`: the replay identity `<lease_id>-op-<op_nonce>`. -/
def sandboxOpIDV1 (r : SandboxOpRequestV1) : String := r.leaseID ++ "-op-" ++ r.opNonce

/-! ## Shape check of a request -/

/-- `opMembers`: the optional members an op carries. -/
structure OpMembers where
  execID : Bool := false
  path : Bool := false
  payload : Bool := false
  offset : Bool := false
  limit : Bool := false
  stream : Bool := false
  timeout : Bool := false
  maxOutput : Bool := false
  recursive : Bool := false
  allowRoot : Bool := false
  maxLimit : ℕ := 0

/-- `sandboxOpMembers`. -/
def sandboxOpMembers : Op → OpMembers
  | .execStart => { payload := true, timeout := true, maxOutput := true }
  | .execRead =>
    { execID := true, offset := true, limit := true, stream := true, maxLimit := maxChunkBytes }
  | .execCancel => { execID := true }
  | .fileWrite => { path := true, payload := true, offset := true }
  | .fileRead => { path := true, offset := true, limit := true, maxLimit := maxChunkBytes }
  | .fileStat => { path := true, allowRoot := true }
  | .fileList =>
    { path := true, offset := true, limit := true, allowRoot := true, maxLimit := maxListEntries }
  | .fileRemove => { path := true, recursive := true }
  | .fileMkdir => { path := true, recursive := true }

/-- `leaseIDNames`. -/
def leaseIDNames (leaseID sandboxID minerID : String) (generation : ℕ) : Bool :=
  hexAfter (sandboxIdentity sandboxID minerID generation "") leaseID 32

/-- `opIDNames`. -/
def opIDNames (opID leaseID : String) : Bool := hexAfter (leaseID ++ "-op-") opID 32

/-- A member is present exactly when the op uses it. -/
def memberCheck (op : Op) (name : String) (allowed present : Bool) : Except String Unit :=
  reject (allowed ≠ present)
    ("sandbox op " ++ op.text ++ " member " ++ name ++ " is required exactly when the op uses it")

/-- The bound of `offset`. -/
def offsetBound : Op → ℕ
  | .execRead => maxExecOutputBytes
  | .fileList => maxListCursor
  | .fileWrite => maxFileWriteBytes
  | _ => maxSafeInteger

/-- The digest and the length of a payload, or their absence. -/
def payloadCheck (m : OpMembers) (r : SandboxOpRequestV1) : Except String Unit :=
  if m.payload then
    reject (¬ r.payloadDigest.any validDigest ∨ r.payloadBytes < 1 ∨ r.payloadBytes > maxChunkBytes)
      "sandbox op payload must be bound by digest and hold 1..524288 bytes"
  else reject (r.payloadBytes ≠ 0) "sandbox op without payload declares payload_bytes"

/-- The permission bits of the ops that create a path. -/
def modeCheck (r : SandboxOpRequestV1) : Except String Unit :=
  match r.op with
  | .fileWrite => do
    reject (¬ (r.offset = some 0 ↔ r.mode ≠ none))
      "file_write mode is required exactly at offset 0"
    reject (r.offset.getD 0 > maxFileWriteBytes ∨
        r.offset.getD 0 + r.payloadBytes > maxFileWriteBytes)
      "file_write exceeds the maximum writable file size"
  | .fileMkdir => reject (r.mode = none) "file_mkdir mode is required"
  | _ => memberCheck r.op "mode" false r.mode.isSome

/-- `opMembers.check`: the members of an op and their bounds. -/
def OpMembers.check (m : OpMembers) (r : SandboxOpRequestV1) : Except String Unit := do
  memberCheck r.op "exec_id" m.execID r.execID.isSome
  memberCheck r.op "path" m.path r.path.isSome
  memberCheck r.op "payload_digest" m.payload r.payloadDigest.isSome
  memberCheck r.op "offset" m.offset r.offset.isSome
  memberCheck r.op "limit" m.limit r.limit.isSome
  memberCheck r.op "stream" m.stream r.stream.isSome
  memberCheck r.op "timeout_ms" m.timeout r.timeoutMS.isSome
  memberCheck r.op "max_output_bytes" m.maxOutput r.maxOutputBytes.isSome
  memberCheck r.op "recursive" m.recursive r.recursive.isSome
  reject (m.execID ∧ ¬ r.execID.any (opIDNames · r.leaseID))
    "exec_id does not name an op of this lease"
  (if m.path then validOpPath (r.path.getD "") m.allowRoot else .ok ())
  payloadCheck m r
  reject (m.limit ∧ ¬ r.limit.any (fun n => 1 ≤ n && n ≤ m.maxLimit))
    "sandbox op limit is out of bounds"
  reject (m.stream ∧ r.stream ≠ some "stdout" ∧ r.stream ≠ some "stderr")
    "exec_read stream must be stdout or stderr"
  reject (m.timeout ∧ ¬ r.timeoutMS.any (fun n => minExecTimeoutMS ≤ n && n ≤ maxExecTimeoutMS))
    "exec timeout_ms is out of bounds"
  reject (m.maxOutput ∧
      ¬ r.maxOutputBytes.any (fun n => minExecOutputBytes ≤ n && n ≤ maxExecOutputBytes))
    "exec max_output_bytes is out of bounds"
  reject (m.offset ∧ ¬ r.offset.any (· ≤ offsetBound r.op)) "sandbox op offset is out of bounds"
  modeCheck r
  reject (r.mode.any (· > maxFileModeBits) = true) "sandbox op mode must hold permission bits only"

def sandboxOpRequestSchema : String := schemaPrefix ++ "sandbox-op-request"

def sandboxOpReceiptSchema : String := schemaPrefix ++ "sandbox-op-receipt"

/-- `SandboxOpRequestV1.Validate`. -/
def SandboxOpRequestV1.validate (w : Wire) (r : SandboxOpRequestV1) : Except String Unit := do
  validateSandboxSignature r.signature "op request"
  reject (r.schema ≠ sandboxOpRequestSchema ∨ r.schemaVersion ≠ 1 ∨
      r.workloadKind ≠ Sandbox.workloadKind)
    "sandbox op request schema or workload kind is invalid"
  reject (¬ validSandboxIdentity r.sandboxID r.minerID r.generation ∨
      ¬ leaseIDNames r.leaseID r.sandboxID r.minerID r.generation ∨ ¬ validDigest r.leaseDigest ∨
      ¬ lowercaseHex r.opNonce 32)
    "sandbox op request identity is invalid"
  (sandboxOpMembers r.op).check r
  validateSandboxWindow r.issuedAt r.expiresAt maxOpWindow "op"
  validateSandboxBinding w r.subnet r.minerID

/-- `SandboxOpTargetsLeaseV1`: the op names that exact signed lease, by digest and ID, the same
sandbox, generation and miner, and the same parties. -/
def sandboxOpTargetsLeaseV1 (w : Wire) (r : SandboxOpRequestV1) (lease : SandboxLeaseV1) : Bool :=
  match w.leaseDigest lease with
  | none => false
  | some digest =>
    r.leaseDigest == digest && r.leaseID == sandboxLeaseIDV1 lease &&
      r.sandboxID == lease.sandboxID && r.generation == lease.generation &&
      r.minerID == lease.minerID && sameSandboxParties r.subnet lease.subnet

/-! ## Shape check of a receipt -/

/-- `isExecOp`. -/
def isExecOp (op : Op) : Bool := op = .execStart || op = .execRead || op = .execCancel

/-- `opHasResult`. -/
def opHasResult (op : Op) : Bool := op = .execRead || op = .fileRead || op = .fileList

/-- `execStateOfStage`. -/
def execStateOfStage : OpStage → Option ExecState
  | .running => some .running
  | .exited => some .exited
  | .cancelled => some .cancelled
  | .timedOut => some .timedOut
  | _ => none

/-- The stages that answer an op: all but `completed` for an exec op, and the four of a file op. -/
def stageAnswers (op : Op) (stage : OpStage) : Bool :=
  if isExecOp op then stage ≠ .completed
  else stage = .completed || stage = .refused || stage = .failed || stage = .timedOut

/-- The checks of an exec member, of its times and its output. -/
def validExecStatus (e : ExecStatus) (observed : ℤ) : Except String Unit :=
  if e.startedAt > observed then .error "exec started_at is invalid or after observed_at"
  else if (e.state = .running) ≠ (e.endedAt = none) then
    .error "exec ended_at is present exactly for a terminal exec"
  else if e.endedAt.any fun ended => ended < e.startedAt || observed < ended then
    .error "exec ended_at is invalid or outside started_at..observed_at"
  else if e.stdoutBytes > maxSafeInteger ∨ e.stderrBytes > maxSafeInteger then
    .error "exec output totals exceed 2^53-1"
  else if (e.state = .exited) ≠ (e.exitCode ≠ none) ∨ e.exitCode.any (fun c => c < 0 || 255 < c) then
    .error "exec exit_code is present exactly for an exited exec, 0..255"
  else if e.stdoutRetained > e.stdoutBytes ∨ e.stderrRetained > e.stderrBytes ∨
      e.stdoutRetained > maxExecOutputBytes ∨ e.stderrRetained > maxExecOutputBytes then
    .error "exec retained output exceeds output or cap"
  else .ok ()

/-- `SandboxOpReceiptV1.validateExec`. -/
def SandboxOpReceiptV1.validateExec (r : SandboxOpReceiptV1) : Except String Unit :=
  if ¬ isExecOp r.op ∨ r.stage = .refused then
    if r.exec ≠ none then .error "op receipt names an exec it does not answer" else .ok ()
  else
    match execStateOfStage r.stage, r.exec with
    | some want, some e =>
      if e.state ≠ want then .error "op receipt exec state contradicts its stage"
      else validExecStatus e r.observedAt
    | some _, none => .error "op receipt exec state contradicts its stage"
    | none, none => .ok ()
    | none, some e =>
      if e.state ≠ .failed then .error "failed op receipt exec state must be failed"
      else validExecStatus e r.observedAt

/-- Whether the stage of an op carries an error code: a refusal, a failure, and a file op that ran
out of its budget. -/
def SandboxOpReceiptV1.wantCode (r : SandboxOpReceiptV1) : Bool :=
  r.stage = .refused || r.stage = .failed || (!isExecOp r.op && r.stage = .timedOut)

/-- Whether the receipt carries the file member. -/
def SandboxOpReceiptV1.fileInfo (r : SandboxOpReceiptV1) : Bool :=
  (r.op = .fileWrite || r.op = .fileStat || r.op = .fileMkdir) && r.stage = .completed

/-- Whether the receipt carries a result. -/
def SandboxOpReceiptV1.result (r : SandboxOpReceiptV1) : Bool :=
  opHasResult r.op && (r.stage = .completed || (isExecOp r.op && (execStateOfStage r.stage).isSome))

/-- The binding of the result bytes, or their absence. -/
def SandboxOpReceiptV1.resultCheck (r : SandboxOpReceiptV1) : Except String Unit :=
  if r.result then
    reject (¬ r.resultDigest.any validDigest ∨ r.resultBytes > maxChunkBytes ∨
        r.nextOffset.any (· > maxSafeInteger))
      "op receipt result binding is invalid"
  else
    reject (r.resultBytes ≠ 0 ∨ r.eof)
      "op receipt without a result declares result bytes or eof"

/-- `SandboxOpReceiptV1.validateUnsigned`. -/
def SandboxOpReceiptV1.validateUnsigned (w : Wire) (r : SandboxOpReceiptV1) :
    Except String Unit := do
  reject (r.schema ≠ sandboxOpReceiptSchema ∨ r.schemaVersion ≠ 1)
    "sandbox op receipt schema is invalid"
  reject (¬ validSandboxIdentity r.sandboxID r.minerID r.generation ∨
      ¬ leaseIDNames r.leaseID r.sandboxID r.minerID r.generation ∨
      ¬ opIDNames r.opID r.leaseID ∨ ¬ validDigest r.documentDigest)
    "sandbox op receipt identity is invalid"
  reject (¬ stageAnswers r.op r.stage) "op receipt stage does not answer op"
  reject (r.wantCode ≠ r.errorCode.isSome) "op_receipt_error_code_invalid"
  reject (r.errorCode.any fun code => (opErrorAttribution.lookup code).isNone)
    "op receipt error_code is unknown"
  reject (¬ isExecOp r.op ∧ r.stage = .timedOut ∧ r.errorCode ≠ some "op_deadline_exceeded")
    "timed out file op must report op_deadline_exceeded"
  reject (r.fileInfo ≠ r.file.isSome)
    "op receipt file member must be present exactly for a completed write, stat or mkdir"
  reject (r.file.any fun f => !validFileType f.type || f.mode > maxFileModeBits)
    "op receipt file member is invalid"
  reject (r.result ≠ r.resultDigest.isSome ∨ r.result ≠ r.nextOffset.isSome)
    "op receipt result is present exactly for a successful read or list"
  r.resultCheck
  r.validateExec
  validateSandboxBinding w r.subnet r.minerID

/-- `SandboxOpReceiptV1.Validate`. -/
def SandboxOpReceiptV1.validate (w : Wire) (r : SandboxOpReceiptV1) : Except String Unit := do
  validateSandboxSignature r.signature "op receipt"
  r.validateUnsigned w

/-- `VerifySandboxOpReceiptV1`, against the public key with the hex text `key`. -/
def verifySandboxOpReceiptV1 (w : OpWire) (r : SandboxOpReceiptV1) (key : String) :
    Except String Unit := do
  r.validate w.toWire
  reject (¬ lowercaseHex key 64 ∨ r.subnet.map (·.minerServicePublicKey) ≠ some key)
    "sandbox document signer is not the bound service key"
  reject (¬ w.verifyReceipt r key) "sandbox document signature is invalid"

/-! ## The validator's acceptance checks -/

/-- An `exec_read` result lies in the retained stream, and ends with the exec. -/
def execReadAnswers (r : SandboxOpReceiptV1) (request : SandboxOpRequestV1) : Except String Unit :=
  match r.exec with
  | none => .ok ()
  | some e =>
    let next := r.nextOffset.getD 0
    let retained := if request.stream = some "stderr" then e.stderrRetained else e.stdoutRetained
    reject (next > retained ∧ r.resultBytes ≠ 0 ∨
        ¬ (r.eof = true ↔ e.state ≠ .running ∧ retained ≤ next))
      "sandbox exec_read result contradicts the retained stream"

/-- The result bytes that came with a receipt match its binding and the request. -/
def resultAnswers (w : OpWire) (r : SandboxOpReceiptV1) (request : SandboxOpRequestV1)
    (result : List UInt8) : Except String Unit := do
  let next := r.nextOffset.getD 0
  let offset := request.offset.getD 0
  let limit := request.limit.getD 0
  reject (result.length ≠ r.resultBytes ∨ some (w.contentDigest result) ≠ r.resultDigest)
    "sandbox op result does not match its receipt binding"
  match request.op with
  | .fileRead =>
    reject (r.resultBytes > limit ∨ next ≠ offset + r.resultBytes)
      "sandbox op read result contradicts its offset or limit"
  | .execRead => do
    reject (r.resultBytes > limit ∨ next ≠ offset + r.resultBytes)
      "sandbox op read result contradicts its offset or limit"
    execReadAnswers r request
  | .fileList =>
    match w.decodeListResult result with
    | none => .error "sandbox file_list result is invalid"
    | some entries =>
      reject (entries > limit ∨ next ≠ offset + entries)
        "sandbox file_list result contradicts its offset or limit"
  | _ => .ok ()

/-- `SandboxOpReceiptAnswersV1`: the receipt and the result bytes answer the complete request. -/
def sandboxOpReceiptAnswersV1 (w : OpWire) (r : SandboxOpReceiptV1) (request : SandboxOpRequestV1)
    (result : Option (List UInt8)) : Except String Unit := do
  request.validate w.toWire
  r.validate w.toWire
  reject (w.opDigest request = none) "canonical json must be ascii"
  reject (some r.documentDigest ≠ w.opDigest request ∨ r.op ≠ request.op ∨
      r.opID ≠ sandboxOpIDV1 request ∨ r.leaseID ≠ request.leaseID ∨
      r.sandboxID ≠ request.sandboxID ∨ r.generation ≠ request.generation ∨
      r.minerID ≠ request.minerID ∨ ¬ sameSandboxParties r.subnet request.subnet)
    "sandbox op receipt does not answer the request"
  reject (request.op = .execStart ∧ r.exec.any fun e =>
      e.stdoutRetained > request.maxOutputBytes.getD 0 ||
        e.stderrRetained > request.maxOutputBytes.getD 0)
    "sandbox exec_start receipt retains more output than max_output_bytes"
  match r.resultDigest with
  | none =>
    reject (result ≠ none) "sandbox op receipt carries no result but bytes were returned"
  | some _ => resultAnswers w r request (result.getD [])

/-- `SandboxExecNeverStartedV1`: the definitive non-start rule for an `exec_start` whose outcome is
unknown. -/
def sandboxExecNeverStartedV1 (w : OpWire) (readReceipt : SandboxOpReceiptV1)
    (readRequest start : SandboxOpRequestV1) (minerKey : String) : Except String Bool := do
  start.validate w.toWire
  verifySandboxOpReceiptV1 w readReceipt minerKey
  reject (start.op ≠ .execStart ∨ (readRequest.op ≠ .execRead ∧ readRequest.op ≠ .execCancel) ∨
      readRequest.execID ≠ some (sandboxOpIDV1 start) ∨ readRequest.leaseID ≠ start.leaseID ∨
      readRequest.leaseDigest ≠ start.leaseDigest ∨
      ¬ sameSandboxParties readRequest.subnet start.subnet)
    "sandbox exec resolution request does not name the exec_start"
  sandboxOpReceiptAnswersV1 w readReceipt readRequest none
  if readReceipt.stage ≠ .refused ∨ readReceipt.errorCode ≠ some "exec_not_found" then .ok false
  else .ok (decide (start.expiresAt + issueSkew ≤ readReceipt.observedAt))

/-! ## What the checks establish -/

/-- A request that passed its check has a nonce of 32 digits and the members of its op. -/
lemma SandboxOpRequestV1.validate_spec {w : Wire} {r : SandboxOpRequestV1}
    (h : r.validate w = .ok ()) :
    lowercaseHex r.opNonce 32 = true ∧ (sandboxOpMembers r.op).check r = .ok () := by
  simp only [SandboxOpRequestV1.validate, Except.bind_eq_ok, reject_eq_ok] at h
  obtain ⟨_, -, _, -, _, hid, _, hcheck, -⟩ := h
  simp only [not_or, not_not] at hid
  exact ⟨hid.2.2.2, hcheck⟩

/-- The checks of a request, one by one. -/
lemma SandboxOpRequestV1.validate_intro {w : Wire} {r : SandboxOpRequestV1}
    (hsig : validateSandboxSignature r.signature "op request" = .ok ())
    (hschema : r.schema = sandboxOpRequestSchema) (hversion : r.schemaVersion = 1)
    (hkind : r.workloadKind = Sandbox.workloadKind)
    (hid : validSandboxIdentity r.sandboxID r.minerID r.generation = true)
    (hlease : leaseIDNames r.leaseID r.sandboxID r.minerID r.generation = true)
    (hdigest : validDigest r.leaseDigest = true) (hnonce : lowercaseHex r.opNonce 32 = true)
    (hcheck : (sandboxOpMembers r.op).check r = .ok ())
    (hwindow : validateSandboxWindow r.issuedAt r.expiresAt maxOpWindow "op" = .ok ())
    (hbinding : validateSandboxBinding w r.subnet r.minerID = .ok ()) : r.validate w = .ok () := by
  simp only [SandboxOpRequestV1.validate, Except.bind_eq_ok, reject_eq_ok]
  refine ⟨(), hsig, (), ?_, (), ?_, (), hcheck, (), hwindow, hbinding⟩
  · simp [hschema, hversion, hkind]
  · simp [hid, hlease, hdigest, hnonce]

/-- The exec a valid request names is an op of its lease. -/
lemma SandboxOpRequestV1.validate_execID {w : Wire} {r : SandboxOpRequestV1} {execID : String}
    (h : r.validate w = .ok ()) (hexec : r.execID = some execID) :
    opIDNames execID r.leaseID = true := by
  obtain ⟨-, hcheck⟩ := SandboxOpRequestV1.validate_spec h
  simp only [OpMembers.check, memberCheck, Except.bind_eq_ok, reject_eq_ok, hexec] at hcheck
  obtain ⟨_, hmember, _, -, _, -, _, -, _, -, _, -, _, -, _, -, _, -, _, hnames, -⟩ := hcheck
  simp only [Option.isSome_some, ne_eq, not_not] at hmember
  simpa [hmember] using hnames

/-- The text behind a prefix. -/
lemma hexAfter_eq_true {pre value : String} {n : ℕ} (h : hexAfter pre value n = true) :
    ∃ rest, value = pre ++ rest ∧ lowercaseHex rest n = true := by
  unfold hexAfter stripPrefix? at h
  split at h
  · rename_i rest hrest
    split at hrest
    · rename_i hpre
      obtain ⟨tail, htail⟩ := hpre
      refine ⟨rest, ?_, h⟩
      simp only [Option.some.injEq] at hrest
      rw [← hrest, ← htail, List.drop_left]
      apply String.toList_injective
      simp [htail]
    · cases hrest
  · cases h

lemma lowercaseHex_length {value : String} {n : ℕ} (h : lowercaseHex value n = true) :
    value.toList.length = n := by
  simp only [lowercaseHex, Bool.and_eq_true, beq_iff_eq] at h
  exact h.1

/-- **Op IDs with nonces of one length determine the lease and the nonce.** -/
lemma opID_inj {lease lease' nonce nonce' : String} (hn : nonce.toList.length = nonce'.toList.length)
    (h : lease ++ "-op-" ++ nonce = lease' ++ "-op-" ++ nonce') : lease = lease' ∧ nonce = nonce' := by
  have hl := congrArg String.toList h
  simp only [String.toList_append] at hl
  obtain ⟨hpre, hnonce⟩ := List.append_inj' hl hn
  exact ⟨String.toList_injective (List.append_inj' hpre rfl).1, String.toList_injective hnonce⟩

/-- The exec a valid request names is on the lease of every op with that ID. -/
lemma leaseID_of_execID {w : Wire} {r start : SandboxOpRequestV1} (hr : r.validate w = .ok ())
    (hs : start.validate w = .ok ()) (h : r.execID = some (sandboxOpIDV1 start)) :
    r.leaseID = start.leaseID := by
  obtain ⟨nonce, hid, hhex⟩ := hexAfter_eq_true (SandboxOpRequestV1.validate_execID hr h)
  have hlen : start.opNonce.toList.length = nonce.toList.length := by
    rw [lowercaseHex_length hhex, lowercaseHex_length (SandboxOpRequestV1.validate_spec hs).1]
  exact (opID_inj hlen hid).1.symm

/-- **What an accepted `exec_not_found` receipt says**: the request names the op ID of the
`exec_start`, on its lease, and the receipt was observed at or after its expiry plus the skew. -/
lemma sandboxExecNeverStartedV1_spec {w : OpWire} {receipt : SandboxOpReceiptV1}
    {request start : SandboxOpRequestV1} {key : String}
    (h : sandboxExecNeverStartedV1 w receipt request start key = .ok true) :
    start.validate w.toWire = .ok () ∧ request.validate w.toWire = .ok () ∧ start.op = .execStart ∧
      request.execID = some (sandboxOpIDV1 start) ∧ request.leaseID = start.leaseID ∧
      receipt.errorCode = some "exec_not_found" ∧
      start.expiresAt + issueSkew ≤ receipt.observedAt := by
  simp only [sandboxExecNeverStartedV1, sandboxOpReceiptAnswersV1, Except.bind_eq_ok,
    reject_eq_ok] at h
  obtain ⟨_, hstart, _, -, _, hnames, _, ⟨_, hrequest, -⟩, h⟩ := h
  simp only [not_or, not_not, ne_eq] at hnames
  obtain ⟨hop, -, hexec, hlease, -⟩ := hnames
  split at h
  · cases h
  · rename_i hcode
    simp only [not_or, not_not, ne_eq] at hcode
    simp only [Except.ok.injEq, decide_eq_true_eq] at h
    exact ⟨hstart, hrequest, hop, hexec, hlease, hcode.2, h⟩

/-! ## Ops of the sample lease -/

namespace Sample

/-- A digit for every op. -/
def opDigit : Op → Char
  | .execStart => '0'
  | .execRead => '1'
  | .execCancel => '2'
  | .fileWrite => '3'
  | .fileRead => '4'
  | .fileStat => '5'
  | .fileList => '6'
  | .fileRemove => '7'
  | .fileMkdir => '8'

/-- The digest of a sample request is determined by its op and its nonce. -/
def opWire : OpWire :=
  { wire with
    opDigest := fun r => some ("sha256:" ++ (repeated (opDigit r.op) 32 ++ r.opNonce))
    contentDigest := fun _ => "sha256:" ++ repeated '0' 64
    decodeListResult := fun _ => none
    verifyReceipt := fun _ _ => true }

/-- A request on the sample lease with the nonce `nnn…`, which carries no member yet. -/
def request (c : Char) (validator : String) (op : Op) (n : Char) (issued expires : ℤ) :
    SandboxOpRequestV1 where
  execID := none
  expiresAt := expires
  generation := 1
  issuedAt := issued
  leaseDigest := "sha256:" ++ (repeated c 32 ++ repeated c 32)
  leaseID := leaseID c
  limit := none
  maxOutputBytes := none
  minerID := "miner"
  mode := none
  offset := none
  op := op
  opNonce := repeated n 32
  path := none
  payloadBytes := 0
  payloadDigest := none
  recursive := none
  sandboxID := "sbx-" ++ repeated c 32
  schema := sandboxOpRequestSchema
  schemaVersion := 1
  signature := repeated 'e' 128
  stream := none
  subnet := some (binding validator)
  timeoutMS := none
  workloadKind := "sandbox"

/-- The ID of a sample request with the nonce `nnn…`. -/
def opID (c n : Char) : String := leaseID c ++ "-op-" ++ repeated n 32

/-- A `file_stat` of the root. -/
def stat (c : Char) (validator : String) (n : Char) (issued expires : ℤ) : SandboxOpRequestV1 :=
  { request c validator .fileStat n issued expires with path := some "/" }

/-- An `exec_start` of a one-byte command. -/
def start (c : Char) (validator : String) (n : Char) (timeout output : ℕ) (issued expires : ℤ) :
    SandboxOpRequestV1 :=
  { request c validator .execStart n issued expires with
    payloadDigest := some ("sha256:" ++ (repeated c 32 ++ repeated c 32))
    payloadBytes := 1
    timeoutMS := some timeout
    maxOutputBytes := some output }

/-- An `exec_cancel` with the nonce `nnn…` of the exec with the nonce `mmm…`. -/
def cancel (c : Char) (validator : String) (n m : Char) (issued expires : ℤ) : SandboxOpRequestV1 :=
  { request c validator .execCancel n issued expires with execID := some (opID c m) }

variable {c : Char} {validator : String} {n m : Char} {issued expires : ℤ}

/-- The check of a request on the sample lease comes down to the check of its members. -/
lemma request_valid {r : SandboxOpRequestV1} (hc : hexDigit c = true) (hv : validator ≠ "")
    (hn : hexDigit n = true) (h0 : issued < expires) (h1 : expires - issued ≤ maxOpWindow)
    (hr : { request c validator r.op n issued expires with
      execID := r.execID, path := r.path, payloadDigest := r.payloadDigest
      payloadBytes := r.payloadBytes, timeoutMS := r.timeoutMS, maxOutputBytes := r.maxOutputBytes } = r)
    (hcheck : (sandboxOpMembers r.op).check r = .ok ()) : r.validate wire = .ok () := by
  rw [← hr] at hcheck ⊢
  exact SandboxOpRequestV1.validate_intro (signature_valid _) rfl rfl rfl (identity_valid hc)
    (leaseID_valid hc) (digest_valid hc) (lowercaseHex_repeated hn 32) hcheck (window_valid "op" h0 h1)
    (binding_valid hv)

lemma opIDNames_opID (c : Char) (hm : hexDigit m = true) : opIDNames (opID c m) (leaseID c) = true := by
  rw [opIDNames, opID, hexAfter_append, lowercaseHex_repeated hm]

lemma stat_valid (hc : hexDigit c = true) (hv : validator ≠ "") (hn : hexDigit n = true)
    (h0 : issued < expires) (h1 : expires - issued ≤ maxOpWindow) :
    (stat c validator n issued expires).validate wire = .ok () := by
  refine request_valid hc hv hn h0 h1 rfl ?_
  have hpath : validOpPath "/" true = .ok () := by decide
  simp [OpMembers.check, stat, request, sandboxOpMembers, memberCheck, payloadCheck, modeCheck, hpath,
    Except.bind_eq_ok]

lemma cancel_valid (hc : hexDigit c = true) (hv : validator ≠ "") (hn : hexDigit n = true)
    (hm : hexDigit m = true) (h0 : issued < expires) (h1 : expires - issued ≤ maxOpWindow) :
    (cancel c validator n m issued expires).validate wire = .ok () := by
  refine request_valid hc hv hn h0 h1 rfl ?_
  simp [OpMembers.check, cancel, request, sandboxOpMembers, memberCheck, payloadCheck, modeCheck,
    opIDNames_opID c hm, Except.bind_eq_ok]

lemma start_valid {timeout output : ℕ} (hc : hexDigit c = true) (hv : validator ≠ "")
    (hn : hexDigit n = true) (ht0 : minExecTimeoutMS ≤ timeout) (ht1 : timeout ≤ maxExecTimeoutMS)
    (ho0 : minExecOutputBytes ≤ output) (ho1 : output ≤ maxExecOutputBytes) (h0 : issued < expires)
    (h1 : expires - issued ≤ maxOpWindow) :
    (start c validator n timeout output issued expires).validate wire = .ok () := by
  refine request_valid hc hv hn h0 h1 rfl ?_
  simp [OpMembers.check, start, request, sandboxOpMembers, memberCheck, payloadCheck, modeCheck,
    digest_valid hc, ht0, ht1, ho0, ho1, maxChunkBytes, Except.bind_eq_ok]

/-- The receipt that refuses the request `r` with `exec_not_found`, observed at `observed`. -/
def notFound (r : SandboxOpRequestV1) (digest : String) (observed : ℤ) : SandboxOpReceiptV1 where
  documentDigest := digest
  eof := false
  errorCode := some "exec_not_found"
  exec := none
  file := none
  generation := r.generation
  leaseID := r.leaseID
  minerID := r.minerID
  nextOffset := none
  observedAt := observed
  op := r.op
  opID := sandboxOpIDV1 r
  resultBytes := 0
  resultDigest := none
  sandboxID := r.sandboxID
  schema := sandboxOpReceiptSchema
  schemaVersion := 1
  signature := repeated 'e' 128
  stage := .refused
  subnet := r.subnet

/-- The digest of the sample cancel. -/
def cancelDigest (n : Char) : String := "sha256:" ++ (repeated '2' 32 ++ repeated n 32)

lemma cancelDigest_valid (hn : hexDigit n = true) : validDigest (cancelDigest n) = true := by
  rw [validDigest, cancelDigest, hexAfter_append]
  simp only [lowercaseHex, repeated, String.toList_append, String.toList_ofList, List.length_append,
    List.length_replicate, List.all_append, List.all_replicate, Bool.and_eq_true]
  exact ⟨rfl, by simp [hn, show hexDigit '2' = true by decide]⟩

lemma notFound_valid {observed : ℤ} (hc : hexDigit c = true) (hv : validator ≠ "")
    (hn : hexDigit n = true) :
    (notFound (cancel c validator n m issued expires) (cancelDigest n) observed).validate wire =
      .ok () := by
  have hcode : (opErrorAttribution.lookup "exec_not_found").isNone = false := by decide
  have hnames : opIDNames (sandboxOpIDV1 (cancel c validator n m issued expires)) (leaseID c) = true :=
    opIDNames_opID c hn
  have hlease : leaseIDNames (leaseID c) ("sbx-" ++ repeated c 32) "miner" 1 = true := leaseID_valid hc
  simp only [SandboxOpReceiptV1.validate, SandboxOpReceiptV1.validateUnsigned, Except.bind_eq_ok]
  refine ⟨(), signature_valid _, (), ?_, (), ?_, (), ?_, (), ?_, (), ?_, (), ?_, (), ?_, (), ?_, (), ?_,
    (), ?_, (), ?_, binding_valid hv⟩
  · simp [notFound]
  · simp [notFound, cancel, request, identity_valid hc, hlease, cancelDigest_valid hn]
    exact hnames
  · simp [notFound, cancel, request, stageAnswers, isExecOp]
  · simp [notFound, SandboxOpReceiptV1.wantCode]
  · simp only [notFound, Option.any_some, hcode, reject_eq_ok, Bool.false_eq_true, not_false_eq_true]
  · simp [notFound]
  · simp [notFound, SandboxOpReceiptV1.fileInfo]
  · simp [notFound]
  · simp [notFound, SandboxOpReceiptV1.result, cancel, request, opHasResult]
  · simp [notFound, SandboxOpReceiptV1.resultCheck, SandboxOpReceiptV1.result, cancel, request,
      opHasResult]
  · simp [notFound, SandboxOpReceiptV1.validateExec]

/-- The definitive non-start rule accepts the sample refusal once the skew has passed. -/
lemma neverStarted {issued' expires' observed : ℤ} {timeout output : ℕ} (hc : hexDigit c = true)
    (hv : validator ≠ "") (hn : hexDigit n = true)
    (hstart : (start c validator m timeout output issued' expires').validate wire = .ok ())
    (hcancel : (cancel c validator n m issued expires).validate wire = .ok ())
    (hobs : expires' + issueSkew ≤ observed) :
    sandboxExecNeverStartedV1 opWire
      (notFound (cancel c validator n m issued expires) (cancelDigest n) observed)
      (cancel c validator n m issued expires) (start c validator m timeout output issued' expires')
      (repeated 'b' 64) = .ok true := by
  have hvalid : (notFound (cancel c validator n m issued expires) (cancelDigest n) observed).validate
      opWire.toWire = .ok () := notFound_valid hc hv hn
  have hkey : lowercaseHex (repeated 'b' 64) 64 = true := lowercaseHex_repeated (by decide) 64
  simp only [sandboxExecNeverStartedV1, verifySandboxOpReceiptV1, sandboxOpReceiptAnswersV1,
    Except.bind_eq_ok]
  refine ⟨(), hstart, (), ⟨(), hvalid, (), ?_, ?_⟩, (), ?_, (), ⟨(), hcancel, (), hvalid, (), ?_, (), ?_,
    (), ?_, ?_⟩, ?_⟩
  · simp [hkey, notFound, cancel, request, binding]
  · simp [opWire]
  · simp [start, cancel, request, sandboxOpIDV1, opID, sameSandboxParties]
  · simp [opWire]
  · simp [notFound, cancel, request, opWire, opDigit, cancelDigest, sameSandboxParties]
  · simp [cancel, request]
  · simp [notFound]
  · simp only [notFound, ne_eq, not_true_eq_false, or_self, if_false, Except.ok.injEq]
    exact decide_eq_true hobs

end Sample

end Misscomputer.Protocol
