import Misscomputer.Sandbox.Vocabulary

set_option relaxedAutoImplicit false
set_option autoImplicit false

/-!
# The sandbox-lease-v1 documents

The four validator-signed documents of the lease lane with the shape check each of them passes
before the miner acts on it, and the rule by which a lease commits a reservation.

A timestamp member is the instant it denotes: the canonical RFC 3339 text of an instant is
unique, so no comparison below depends on the spelling. Text is a sequence of Unicode scalar
values, so the JSON encoding of a document determines it.

## Main definitions

* `Protocol.Wire` — what the model takes from outside: the document digests and the text checks
  made by regular expressions, `net/url` and `net/netip`.
* `Protocol.Identity` — `(sandbox_id, generation, miner)`, the key of every durable row.
* `Protocol.SandboxReservationV1`, `SandboxLeaseV1`, `SandboxRenewalV1`, `SandboxReleaseV1`.
* `Protocol.sandboxLeaseCommitsReservationV1` — a lease commits exactly one reservation.

## References

* `pkg/protocol/sandbox_v1.go`, `pkg/protocol/static_v1.go`, `pkg/protocol/protocol.go`,
  `pkg/organic/vocabulary.go`
-/

namespace Misscomputer.Protocol

open Sandbox

/-! ## Text checks -/

def hexDigit (c : Char) : Bool :=
  (48 ≤ c.toNat && c.toNat ≤ 57) || (97 ≤ c.toNat && c.toNat ≤ 102)

/-- `lowercaseHex`: exactly `length` lowercase hexadecimal digits. -/
def lowercaseHex (value : String) (length : ℕ) : Bool :=
  value.toList.length == length && value.toList.all hexDigit

/-- The text behind `pre`, when the value starts with `pre`. -/
def stripPrefix? (pre value : String) : Option String :=
  if pre.toList <+: value.toList then some (String.ofList (value.toList.drop pre.toList.length))
  else none

/-- `value` is `pre` followed by `length` lowercase hexadecimal digits. -/
def hexAfter (pre value : String) (length : ℕ) : Bool :=
  match stripPrefix? pre value with
  | some rest => lowercaseHex rest length
  | none => false

/-- `ValidDigest`. -/
def validDigest (value : String) : Bool := hexAfter "sha256:" value 64

/-- `ValidSandboxID`. -/
def validSandboxID (value : String) : Bool := hexAfter "sbx-" value 32

/-- `ValidHotkey`: 1..128 ASCII letters and digits. -/
def validHotkey (value : String) : Bool :=
  1 ≤ value.toList.length && value.toList.length ≤ 128 && value.toList.all Char.isAlphanum

/-- `SecretEnv.Validate`. -/
def validateSecretEnv (s : SecretEnv) : Except String Unit :=
  match s.names with
  | none => .error "secret_env names must be an array"
  | some names =>
    if s.delivery = "none" then
      if names ≠ [] ∨ s.bundleDigest ≠ none then
        .error "secret_env without delivery carries names or a bundle"
      else .ok ()
    else if s.delivery ≠ "sealed-bundle-v1" then .error "secret_env delivery is invalid"
    else if ¬ (s.bundleDigest.any validDigest) then .error "secret_env bundle_digest is invalid"
    else if names.length = 0 ∨ names.length > 128 ∨ ¬ sortedUnique names then
      .error "secret_env names must be 1..128 sorted unique names"
    else if ¬ names.all validEnvName then .error "secret_env name is invalid"
    else .ok ()

/-! ## The subnet binding -/

/-- `StaticSubnetBindingV1`. -/
structure StaticSubnetBindingV1 where
  chainBlock : ℕ
  epoch : ℕ
  expiresAtBlock : ℕ
  minerAxonURL : String
  minerHotkey : String
  minerServicePublicKey : String
  minerTLSCertificateSHA256 : Option String
  minerTransport : String
  minerUID : Option ℕ
  netUID : ℕ
  network : String
  validatorHotkey : String
  validatorServicePublicKey : String
  deriving DecidableEq, Repr

/-- `sandboxValidator`: the validator hotkey, or the empty text without a binding. -/
def sandboxValidator (subnet : Option StaticSubnetBindingV1) : String :=
  match subnet with
  | none => ""
  | some b => b.validatorHotkey

/-- `sameSandboxParties`: both bindings are present and name the same network, validator and
miner service identities. -/
def sameSandboxParties (left right : Option StaticSubnetBindingV1) : Bool :=
  match left, right with
  | some l, some r =>
    l.network == r.network && l.netUID == r.netUID && l.validatorHotkey == r.validatorHotkey &&
      l.validatorServicePublicKey == r.validatorServicePublicKey &&
      l.minerHotkey == r.minerHotkey && l.minerServicePublicKey == r.minerServicePublicKey
  | _, _ => false

/-! ## The documents -/

/-- `(sandbox_id, generation, miner)`: what a hold, a lease and a release fence are keyed by. -/
structure Identity where
  sandboxID : String
  generation : ℕ
  miner : String
  deriving DecidableEq, Repr

/-- `SandboxReservationV1`: asks one miner to hold capacity until `hold_expires_at`. -/
structure SandboxReservationV1 where
  generation : ℕ
  holdExpiresAt : ℤ
  issuedAt : ℤ
  minerID : String
  reservationNonce : String
  resources : Resources
  sandboxID : String
  schema : String
  schemaVersion : ℤ
  signature : String
  subnet : Option StaticSubnetBindingV1
  workloadKind : String
  deriving DecidableEq, Repr

/-- `SandboxLeaseV1`: commits one held reservation to one image under a renewable expiry. -/
structure SandboxLeaseV1 where
  assignmentNonce : String
  env : Option (List (String × String))
  generation : ℕ
  imageDigest : String
  imageReference : String
  isolation : String
  issuedAt : ℤ
  leaseExpiresAt : ℤ
  minerID : String
  network : NetworkPolicy
  reservationDigest : String
  resources : Resources
  sandboxID : String
  schema : String
  schemaVersion : ℤ
  secretEnv : SecretEnv
  signature : String
  subnet : Option StaticSubnetBindingV1
  workloadKind : String
  deriving DecidableEq, Repr

/-- `SandboxRenewalV1`: extends one lease. -/
structure SandboxRenewalV1 where
  generation : ℕ
  issuedAt : ℤ
  leaseDigest : String
  leaseExpiresAt : ℤ
  leaseID : String
  minerID : String
  renewalSeq : ℕ
  sandboxID : String
  schema : String
  schemaVersion : ℤ
  signature : String
  subnet : Option StaticSubnetBindingV1
  deriving DecidableEq, Repr

/-- `SandboxReleaseV1`: cancels the hold and lease of one identity, and fences it. -/
structure SandboxReleaseV1 where
  generation : ℕ
  issuedAt : ℤ
  minerID : String
  reason : String
  sandboxID : String
  schema : String
  schemaVersion : ℤ
  signature : String
  subnet : Option StaticSubnetBindingV1
  deriving DecidableEq, Repr

def SandboxReservationV1.identity (r : SandboxReservationV1) : Identity :=
  ⟨r.sandboxID, r.generation, r.minerID⟩

def SandboxLeaseV1.identity (l : SandboxLeaseV1) : Identity :=
  ⟨l.sandboxID, l.generation, l.minerID⟩

def SandboxRenewalV1.identity (r : SandboxRenewalV1) : Identity :=
  ⟨r.sandboxID, r.generation, r.minerID⟩

def SandboxReleaseV1.identity (r : SandboxReleaseV1) : Identity :=
  ⟨r.sandboxID, r.generation, r.minerID⟩

/-- `sandboxIdentity`: the text `<sandbox_id>-<miner>-g<generation>-<nonce>`. -/
def sandboxIdentity (sandboxID minerID : String) (generation : ℕ) (nonce : String) : String :=
  sandboxID ++ "-" ++ minerID ++ "-g" ++ toString generation ++ "-" ++ nonce

/-- `SandboxHoldIDV1`. -/
def sandboxHoldIDV1 (r : SandboxReservationV1) : String :=
  sandboxIdentity r.sandboxID r.minerID r.generation r.reservationNonce

/-- `SandboxLeaseIDV1`. -/
def sandboxLeaseIDV1 (l : SandboxLeaseV1) : String :=
  sandboxIdentity l.sandboxID l.minerID l.generation l.assignmentNonce

/-! ## Shape checks -/

/-- What the lease documents take from outside the model. The digest of a document is the
SHA-256 of its canonical JSON, absent when the encoding is not ASCII. -/
structure Wire where
  /-- A hostname or a canonical CIDR prefix (`validAllowEntry`). -/
  validAllowEntry : String → Bool
  /-- The digest an OCI reference pins (`ImageDigest`). -/
  imageDigest : String → Option String
  /-- `validateMinerAxonURL`, of the URL and the transport. -/
  validateMinerAxonURL : String → String → Except String Unit
  /-- `SandboxDigestV1` of a reservation. -/
  reservationDigest : SandboxReservationV1 → Option String
  /-- `SandboxDigestV1` of a lease. -/
  leaseDigest : SandboxLeaseV1 → Option String

/-- `ValidateSubnetBinding`. -/
def validateSubnetBinding (w : Wire) (subnet : Option StaticSubnetBindingV1) :
    Except String Unit :=
  match subnet with
  | none => .error "bound ticket is missing subnet identity"
  | some b =>
    if b.network = "" ∨ b.validatorHotkey = "" ∨ b.minerHotkey = "" then
      .error "subnet network and hotkeys are required"
    else if ¬ lowercaseHex b.validatorServicePublicKey 64 ∨
        ¬ lowercaseHex b.minerServicePublicKey 64 then
      .error "subnet service public keys must be lowercase 32-byte hex"
    else if b.minerAxonURL = "" then .error "subnet miner axon URL is required"
    else do
      w.validateMinerAxonURL b.minerAxonURL b.minerTransport
      if b.minerTransport = "https" then
        if ¬ (b.minerTLSCertificateSHA256.any (lowercaseHex · 64)) then
          .error "HTTPS subnet binding requires a canonical leaf certificate SHA-256"
      else if b.minerTransport = "http" then
        if b.minerTLSCertificateSHA256 ≠ none then
          .error "HTTP subnet binding cannot carry a TLS certificate pin"
      else .error "subnet miner transport must be https or explicit mock http"
      if b.expiresAtBlock ≤ b.chainBlock then
        .error "subnet block expiry must follow issuance block"

/-- `validSandboxIdentity`. -/
def validSandboxIdentity (sandboxID minerID : String) (generation : ℕ) : Bool :=
  validSandboxID sandboxID && validHotkey minerID && 1 ≤ generation

/-- `validateSandboxBinding`. -/
def validateSandboxBinding (w : Wire) (subnet : Option StaticSubnetBindingV1) (minerID : String) :
    Except String Unit := do
  validateSubnetBinding w subnet
  if subnet.map (·.minerHotkey) ≠ some minerID then .error "miner_id_mismatch"

/-- `validateSandboxWindow`. -/
def validateSandboxWindow (issued expires maximum : ℤ) (name : String) : Except String Unit :=
  if ¬ issued < expires ∨ expires - issued > maximum then .error (name ++ "_window_invalid")
  else .ok ()

/-- `validateSandboxSignature`: the signature is present. -/
def validateSandboxSignature (signature kind : String) : Except String Unit :=
  if lowercaseHex signature 128 then .ok ()
  else .error ("sandbox " ++ kind ++ " signature must be 128 lowercase hex")

def schemaPrefix : String := "miss.computer/misscomputer-subnet/"

def sandboxReservationSchema : String := schemaPrefix ++ "sandbox-reservation-ticket"

def sandboxLeaseSchema : String := schemaPrefix ++ "sandbox-lease-ticket"

def sandboxRenewalSchema : String := schemaPrefix ++ "sandbox-lease-renewal"

def sandboxReleaseSchema : String := schemaPrefix ++ "sandbox-lease-release"

/-- `SandboxReservationV1.Validate`. -/
def SandboxReservationV1.validate (w : Wire) (r : SandboxReservationV1) : Except String Unit := do
  validateSandboxSignature r.signature "reservation"
  if r.schema ≠ sandboxReservationSchema ∨ r.schemaVersion ≠ 1 ∨
      r.workloadKind ≠ Sandbox.workloadKind then
    .error "sandbox reservation schema or workload kind is invalid"
  if ¬ validSandboxIdentity r.sandboxID r.minerID r.generation ∨
      ¬ lowercaseHex r.reservationNonce 32 then
    .error "sandbox reservation identity is invalid"
  r.resources.validate
  validateSandboxWindow r.issuedAt r.holdExpiresAt maxHold "hold"
  validateSandboxBinding w r.subnet r.minerID

/-- `SandboxLeaseV1.Validate`. -/
def SandboxLeaseV1.validate (w : Wire) (l : SandboxLeaseV1) : Except String Unit := do
  validateSandboxSignature l.signature "lease"
  if l.schema ≠ sandboxLeaseSchema ∨ l.schemaVersion ≠ 1 ∨
      l.workloadKind ≠ Sandbox.workloadKind then
    .error "sandbox lease schema or workload kind is invalid"
  if ¬ validSandboxIdentity l.sandboxID l.minerID l.generation ∨
      ¬ lowercaseHex l.assignmentNonce 32 ∨ ¬ validDigest l.reservationDigest then
    .error "sandbox lease identity is invalid"
  if w.imageDigest l.imageReference ≠ some l.imageDigest then
    .error "image_reference must pin image_digest"
  if ¬ validIsolation l.isolation then .error "sandbox isolation is invalid"
  l.resources.validate
  l.network.validate w.validAllowEntry
  validateEnv l.env
  validateSecretEnv l.secretEnv
  validateSandboxWindow l.issuedAt l.leaseExpiresAt maxLeaseWindow "lease"
  validateSandboxBinding w l.subnet l.minerID

/-- `SandboxRenewalV1.Validate`. -/
def SandboxRenewalV1.validate (w : Wire) (r : SandboxRenewalV1) : Except String Unit := do
  validateSandboxSignature r.signature "renewal"
  if r.schema ≠ sandboxRenewalSchema ∨ r.schemaVersion ≠ 1 then
    .error "sandbox renewal schema is invalid"
  if ¬ validSandboxIdentity r.sandboxID r.minerID r.generation ∨ r.renewalSeq < 1 ∨
      ¬ validDigest r.leaseDigest then
    .error "sandbox renewal identity is invalid"
  if ¬ hexAfter (sandboxIdentity r.sandboxID r.minerID r.generation "") r.leaseID 32 then
    .error "lease_id does not name the renewed sandbox"
  validateSandboxWindow r.issuedAt r.leaseExpiresAt maxLeaseWindow "renewal"
  validateSandboxBinding w r.subnet r.minerID

/-- `SandboxReleaseV1.Validate`. -/
def SandboxReleaseV1.validate (w : Wire) (r : SandboxReleaseV1) : Except String Unit := do
  validateSandboxSignature r.signature "release"
  if r.schema ≠ sandboxReleaseSchema ∨ r.schemaVersion ≠ 1 then
    .error "sandbox release schema is invalid"
  if ¬ validSandboxIdentity r.sandboxID r.minerID r.generation ∨
      ¬ validReleaseReason r.reason then
    .error "sandbox release identity is invalid"
  validateSandboxBinding w r.subnet r.minerID

/-- `SandboxLeaseCommitsReservationV1`: the lease names the reservation's digest, identity,
resources and parties. -/
def sandboxLeaseCommitsReservationV1 (w : Wire) (r : SandboxReservationV1) (l : SandboxLeaseV1) :
    Bool :=
  match w.reservationDigest r with
  | none => false
  | some digest =>
    l.reservationDigest == digest && l.sandboxID == r.sandboxID && l.generation == r.generation &&
      l.minerID == r.minerID && l.resources == r.resources && sameSandboxParties l.subnet r.subnet

/-! ## What the checks establish -/

/-- A reservation that passed its check requests an allocation inside the bounds. -/
lemma SandboxReservationV1.validate_resources {w : Wire} {r : SandboxReservationV1}
    (h : r.validate w = .ok ()) : r.resources.validate = .ok () := by
  unfold SandboxReservationV1.validate at h
  cases hr : r.resources.validate with
  | ok _ => rfl
  | error e =>
    rw [hr] at h
    simp only [bind, Except.bind] at h
    repeat' split at h
    all_goals simp_all

/-- A lease that commits a reservation has its identity, its resources and its validator. -/
lemma commits_spec {w : Wire} {r : SandboxReservationV1} {l : SandboxLeaseV1}
    (h : sandboxLeaseCommitsReservationV1 w r l = true) :
    l.identity = r.identity ∧ l.resources = r.resources ∧
      sandboxValidator l.subnet = sandboxValidator r.subnet := by
  unfold sandboxLeaseCommitsReservationV1 at h
  split at h
  · cases h
  · simp only [Bool.and_eq_true, beq_iff_eq] at h
    obtain ⟨⟨⟨⟨⟨-, hs⟩, hg⟩, hm⟩, hres⟩, hp⟩ := h
    refine ⟨by simp [SandboxLeaseV1.identity, SandboxReservationV1.identity, hs, hg, hm], hres, ?_⟩
    unfold sameSandboxParties at hp
    split at hp
    · simp only [Bool.and_eq_true, beq_iff_eq] at hp
      simp [sandboxValidator, *]
    · cases hp

/-! ## Texts of a fixed shape -/

@[simp] lemma stripPrefix?_append (pre rest : String) : stripPrefix? pre (pre ++ rest) = some rest := by
  simp [stripPrefix?]

@[simp] lemma hexAfter_append (pre rest : String) (n : ℕ) :
    hexAfter pre (pre ++ rest) n = lowercaseHex rest n := by
  simp [hexAfter]

/-- `n` times the digit `c`. -/
def repeated (c : Char) (n : ℕ) : String := String.ofList (List.replicate n c)

lemma lowercaseHex_repeated {c : Char} (hc : hexDigit c = true) (n : ℕ) :
    lowercaseHex (repeated c n) n = true := by
  simp [lowercaseHex, repeated, hc]

/-- The checks of a reservation, one by one. -/
lemma SandboxReservationV1.validate_intro {w : Wire} {r : SandboxReservationV1}
    (hsig : validateSandboxSignature r.signature "reservation" = .ok ())
    (hschema : r.schema = sandboxReservationSchema) (hversion : r.schemaVersion = 1)
    (hkind : r.workloadKind = Sandbox.workloadKind)
    (hid : validSandboxIdentity r.sandboxID r.minerID r.generation = true)
    (hnonce : lowercaseHex r.reservationNonce 32 = true)
    (hres : r.resources.validate = .ok ())
    (hwindow : validateSandboxWindow r.issuedAt r.holdExpiresAt maxHold "hold" = .ok ())
    (hsubnet : validateSandboxBinding w r.subnet r.minerID = .ok ()) :
    r.validate w = .ok () := by
  simp [SandboxReservationV1.validate, hsig, hschema, hversion, hkind, hid, hnonce, hres, hwindow,
    hsubnet, bind, Except.bind]

/-- The checks of a lease, one by one. -/
lemma SandboxLeaseV1.validate_intro {w : Wire} {l : SandboxLeaseV1}
    (hsig : validateSandboxSignature l.signature "lease" = .ok ())
    (hschema : l.schema = sandboxLeaseSchema) (hversion : l.schemaVersion = 1)
    (hkind : l.workloadKind = Sandbox.workloadKind)
    (hid : validSandboxIdentity l.sandboxID l.minerID l.generation = true)
    (hnonce : lowercaseHex l.assignmentNonce 32 = true)
    (hdigest : validDigest l.reservationDigest = true)
    (himage : w.imageDigest l.imageReference = some l.imageDigest)
    (hiso : validIsolation l.isolation = true) (hres : l.resources.validate = .ok ())
    (hnet : l.network.validate w.validAllowEntry = .ok ()) (henv : validateEnv l.env = .ok ())
    (hsecret : validateSecretEnv l.secretEnv = .ok ())
    (hwindow : validateSandboxWindow l.issuedAt l.leaseExpiresAt maxLeaseWindow "lease" = .ok ())
    (hsubnet : validateSandboxBinding w l.subnet l.minerID = .ok ()) :
    l.validate w = .ok () := by
  simp [SandboxLeaseV1.validate, hsig, hschema, hversion, hkind, hid, hnonce, hdigest, himage,
    hiso, hres, hnet, henv, hsecret, hwindow, hsubnet, bind, Except.bind]

/-- The checks of a renewal, one by one. -/
lemma SandboxRenewalV1.validate_intro {w : Wire} {r : SandboxRenewalV1}
    (hsig : validateSandboxSignature r.signature "renewal" = .ok ())
    (hschema : r.schema = sandboxRenewalSchema) (hversion : r.schemaVersion = 1)
    (hid : validSandboxIdentity r.sandboxID r.minerID r.generation = true)
    (hseq : 1 ≤ r.renewalSeq) (hdigest : validDigest r.leaseDigest = true)
    (hlease : hexAfter (sandboxIdentity r.sandboxID r.minerID r.generation "") r.leaseID 32 = true)
    (hwindow : validateSandboxWindow r.issuedAt r.leaseExpiresAt maxLeaseWindow "renewal" = .ok ())
    (hsubnet : validateSandboxBinding w r.subnet r.minerID = .ok ()) :
    r.validate w = .ok () := by
  have hlt : ¬ r.renewalSeq < 1 := by omega
  simp only [SandboxRenewalV1.validate, hsig, hschema, hversion, hid, hlt, hdigest, hlease,
    hwindow, hsubnet, bind, Except.bind, ne_eq, not_true_eq_false, or_self, if_false]

/-- The checks of a release, one by one. -/
lemma SandboxReleaseV1.validate_intro {w : Wire} {r : SandboxReleaseV1}
    (hsig : validateSandboxSignature r.signature "release" = .ok ())
    (hschema : r.schema = sandboxReleaseSchema) (hversion : r.schemaVersion = 1)
    (hid : validSandboxIdentity r.sandboxID r.minerID r.generation = true)
    (hreason : validReleaseReason r.reason = true)
    (hsubnet : validateSandboxBinding w r.subnet r.minerID = .ok ()) :
    r.validate w = .ok () := by
  simp [SandboxReleaseV1.validate, hsig, hschema, hversion, hid, hreason, hsubnet, bind,
    Except.bind]

/-! ## Documents of one exchange

One miner and its validators, used to run the definitions on concrete documents. The digest of a
sample document is determined by its nonce. -/

namespace Sample

def wire : Wire where
  validAllowEntry _ := false
  imageDigest reference :=
    if reference = "app@sha256:" ++ repeated 'd' 64 then some ("sha256:" ++ repeated 'd' 64) else none
  validateMinerAxonURL url transport :=
    if url = "http://127.0.0.1:8091" ∧ transport = "http" then .ok ()
    else .error "subnet miner axon URL is not canonical"
  reservationDigest r := some ("sha256:" ++ (r.reservationNonce ++ r.reservationNonce))
  leaseDigest l := some ("sha256:" ++ (l.assignmentNonce ++ l.assignmentNonce))

def binding (validator : String) : StaticSubnetBindingV1 where
  chainBlock := 1
  epoch := 0
  expiresAtBlock := 100
  minerAxonURL := "http://127.0.0.1:8091"
  minerHotkey := "miner"
  minerServicePublicKey := repeated 'b' 64
  minerTLSCertificateSHA256 := none
  minerTransport := "http"
  minerUID := none
  netUID := 1
  network := "test"
  validatorHotkey := validator
  validatorServicePublicKey := repeated 'c' 64

def resources : Resources := ⟨1000, 5120, 1024, 64⟩

/-- Room for two sandboxes of the sample size. -/
def budget : Capacity := ⟨2000, 10240, 2048, 2⟩

/-- The reservation of the sandbox `sbx-ccc…`, held until `expires`. -/
def reservation (c : Char) (validator : String) (expires : ℤ) : SandboxReservationV1 where
  generation := 1
  holdExpiresAt := expires
  issuedAt := 0
  minerID := "miner"
  reservationNonce := repeated c 32
  resources := resources
  sandboxID := "sbx-" ++ repeated c 32
  schema := sandboxReservationSchema
  schemaVersion := 1
  signature := repeated 'e' 128
  subnet := some (binding validator)
  workloadKind := "sandbox"

/-- The lease that commits `reservation c validator _`, until `expires`. -/
def lease (c : Char) (validator : String) (expires : ℤ) : SandboxLeaseV1 where
  assignmentNonce := repeated c 32
  env := some []
  generation := 1
  imageDigest := "sha256:" ++ repeated 'd' 64
  imageReference := "app@sha256:" ++ repeated 'd' 64
  isolation := "gvisor"
  issuedAt := 0
  leaseExpiresAt := expires
  minerID := "miner"
  network := ⟨some [], "none"⟩
  reservationDigest := "sha256:" ++ (repeated c 32 ++ repeated c 32)
  resources := resources
  sandboxID := "sbx-" ++ repeated c 32
  schema := sandboxLeaseSchema
  schemaVersion := 1
  secretEnv := ⟨none, "none", some []⟩
  signature := repeated 'e' 128
  subnet := some (binding validator)
  workloadKind := "sandbox"

/-- The ID of the lease `lease c validator _`. -/
def leaseID (c : Char) : String := sandboxIdentity ("sbx-" ++ repeated c 32) "miner" 1 (repeated c 32)

/-- The renewal number `seq` of the lease `lease c validator _`, until `expires`. -/
def renewal (c : Char) (validator : String) (seq : ℕ) (issued expires : ℤ) : SandboxRenewalV1 where
  generation := 1
  issuedAt := issued
  leaseDigest := "sha256:" ++ (repeated c 32 ++ repeated c 32)
  leaseExpiresAt := expires
  leaseID := leaseID c
  minerID := "miner"
  renewalSeq := seq
  sandboxID := "sbx-" ++ repeated c 32
  schema := sandboxRenewalSchema
  schemaVersion := 1
  signature := repeated 'e' 128
  subnet := some (binding validator)

/-- The release of the sandbox `sbx-ccc…`. -/
def release (c : Char) (validator : String) : SandboxReleaseV1 where
  generation := 1
  issuedAt := 0
  minerID := "miner"
  reason := "customer_delete"
  sandboxID := "sbx-" ++ repeated c 32
  schema := sandboxReleaseSchema
  schemaVersion := 1
  signature := repeated 'e' 128
  subnet := some (binding validator)

lemma repeated_append (c : Char) (m n : ℕ) : repeated c m ++ repeated c n = repeated c (m + n) := by
  rw [repeated, repeated, repeated, ← String.ofList_append, List.replicate_append_replicate]

lemma validHotkey_miner : validHotkey "miner" = true := by decide

lemma binding_valid {validator : String} (hv : validator ≠ "") :
    validateSandboxBinding wire (some (binding validator)) "miner" = .ok () := by
  have hb : lowercaseHex (repeated 'b' 64) 64 = true := lowercaseHex_repeated (by decide) 64
  have hc : lowercaseHex (repeated 'c' 64) 64 = true := lowercaseHex_repeated (by decide) 64
  simp [validateSandboxBinding, validateSubnetBinding, binding, hb, hc, hv, wire, bind, Except.bind,
    pure, Except.pure]

lemma identity_valid {c : Char} (hc : hexDigit c = true) :
    validSandboxIdentity ("sbx-" ++ repeated c 32) "miner" 1 = true := by
  simp [validSandboxIdentity, validSandboxID, lowercaseHex_repeated hc, validHotkey_miner]

lemma signature_valid (kind : String) :
    validateSandboxSignature (repeated 'e' 128) kind = .ok () := by
  simp [validateSandboxSignature, lowercaseHex_repeated (show hexDigit 'e' = true by decide)]

lemma digest_valid {c : Char} (hc : hexDigit c = true) :
    validDigest ("sha256:" ++ (repeated c 32 ++ repeated c 32)) = true := by
  rw [repeated_append, validDigest, hexAfter_append]
  exact lowercaseHex_repeated hc 64

lemma resources_valid : resources.validate = .ok () := by decide

lemma window_valid {issued expires maximum : ℤ} (name : String) (h0 : issued < expires)
    (h1 : expires - issued ≤ maximum) : validateSandboxWindow issued expires maximum name = .ok () := by
  have h : ¬ (¬ issued < expires ∨ expires - issued > maximum) := by omega
  rw [validateSandboxWindow, if_neg h]

lemma reservation_valid {c : Char} {validator : String} {expires : ℤ} (hc : hexDigit c = true)
    (hv : validator ≠ "") (h0 : 0 < expires) (h1 : expires ≤ maxHold) :
    (reservation c validator expires).validate wire = .ok () :=
  SandboxReservationV1.validate_intro (signature_valid _) rfl rfl rfl (identity_valid hc)
    (lowercaseHex_repeated hc 32) resources_valid
    (window_valid "hold" h0 (show expires - 0 ≤ maxHold by omega)) (binding_valid hv)

lemma lease_valid {c : Char} {validator : String} {expires : ℤ} (hc : hexDigit c = true)
    (hv : validator ≠ "") (h0 : 0 < expires) (h1 : expires ≤ maxLeaseWindow) :
    (lease c validator expires).validate wire = .ok () :=
  SandboxLeaseV1.validate_intro (signature_valid _) rfl rfl rfl (identity_valid hc)
    (lowercaseHex_repeated hc 32) (digest_valid hc) (by simp [wire, lease])
    (show validIsolation "gvisor" = true by decide) resources_valid
    (show NetworkPolicy.validate _ ⟨some [], "none"⟩ = .ok () by decide)
    (show validateEnv (some []) = .ok () by decide)
    (show validateSecretEnv ⟨none, "none", some []⟩ = .ok () by decide)
    (window_valid "lease" h0 (show expires - 0 ≤ maxLeaseWindow by omega)) (binding_valid hv)

lemma leaseID_lease (c : Char) (validator : String) (expires : ℤ) :
    sandboxLeaseIDV1 (lease c validator expires) = leaseID c := rfl

lemma leaseID_valid {c : Char} (hc : hexDigit c = true) :
    hexAfter (sandboxIdentity ("sbx-" ++ repeated c 32) "miner" 1 "") (leaseID c) 32 = true := by
  have hsplit : leaseID c =
      sandboxIdentity ("sbx-" ++ repeated c 32) "miner" 1 "" ++ repeated c 32 := by
    simp only [leaseID, sandboxIdentity, String.append_assoc, String.empty_append]
  rw [hsplit, hexAfter_append, lowercaseHex_repeated hc]

lemma renewal_valid {c : Char} {validator : String} {seq : ℕ} {issued expires : ℤ}
    (hc : hexDigit c = true) (hv : validator ≠ "") (hseq : 1 ≤ seq) (h0 : issued < expires)
    (h1 : expires - issued ≤ maxLeaseWindow) :
    (renewal c validator seq issued expires).validate wire = .ok () :=
  SandboxRenewalV1.validate_intro (signature_valid _) rfl rfl (identity_valid hc) hseq
    (digest_valid hc) (leaseID_valid hc) (window_valid "renewal" h0 h1) (binding_valid hv)

lemma release_valid {c : Char} {validator : String} (hc : hexDigit c = true)
    (hv : validator ≠ "") : (release c validator).validate wire = .ok () :=
  SandboxReleaseV1.validate_intro (signature_valid _) rfl rfl (identity_valid hc)
    (show validReleaseReason "customer_delete" = true by decide) (binding_valid hv)

end Sample

end Misscomputer.Protocol
