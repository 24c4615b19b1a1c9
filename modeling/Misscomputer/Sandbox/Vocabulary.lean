import Mathlib.Algebra.Order.Monoid.Defs
import Mathlib.Algebra.Order.Group.Int
import Mathlib.Algebra.Group.Int.Defs
import Mathlib.Algebra.Group.Nat.Defs
import Mathlib.Tactic.Lemma

set_option relaxedAutoImplicit false
set_option autoImplicit false

/-!
# The vocabulary of the sandbox lanes

The resources of one sandbox, aggregate capacities, the stages and error codes of the receipts,
and the bounds of the two sandbox lanes. Instants and durations are integers, in nanoseconds
since the Unix epoch.

## Main definitions

* `Sandbox.Resources`, `Sandbox.Capacity` — one allocation, and a sum of allocations.
* `Sandbox.Capacity.within` — the component-wise bound a budget is checked with.
* `Sandbox.Stage` — the stages of a lease receipt.
* `Sandbox.receiptErrorAttribution`, `Sandbox.opErrorAttribution` — the known error codes, each
  with whether it is the miner's fault.

## References

* `pkg/sandbox/vocabulary.go`, `pkg/sandbox/ops_v1.go`
-/

namespace Misscomputer.Sandbox

/-! ## Durations and bounds -/

/-- One second. -/
def second : ℤ := 1000000000

/-- `MaxHold`: how long a reservation may pin capacity uncommitted. -/
def maxHold : ℤ := 120 * second

/-- `MaxLeaseWindow`: the longest lease or renewal window. -/
def maxLeaseWindow : ℤ := 900 * second

/-- `Grace`: the teardown slack after a lease expires. -/
def grace : ℤ := 30 * second

/-- `IssueSkew`: the tolerated clock skew before `issued_at`. -/
def issueSkew : ℤ := 30 * second

/-- `MaxOpWindow`: the longest window of one op request. -/
def maxOpWindow : ℤ := 60 * second

/-- `MaxRunningExecs`: the cap on the execs of a lease that have not ended. -/
def maxRunningExecs : ℕ := 16

/-- `MaxExecSessions`: the cap on all the execs of a lease. -/
def maxExecSessions : ℕ := 1024

def workloadKind : String := "sandbox"

/-! ## Resources and capacity -/

/-- One sandbox's requested allocation. -/
structure Resources where
  cpuMillis : ℤ
  diskMiB : ℤ
  memoryMiB : ℤ
  pids : ℤ
  deriving DecidableEq, Repr

/-- The per-sandbox bounds. -/
def Resources.validate (r : Resources) : Except String Unit :=
  if r.cpuMillis < 1000 ∨ r.cpuMillis > 16000 ∨ r.memoryMiB < 1024 ∨ r.memoryMiB > 65536 ∨
      r.diskMiB < 5120 ∨ r.diskMiB > 102400 ∨ r.pids < 64 ∨ r.pids > 32768 then
    .error "sandbox resources are out of bounds"
  else .ok ()

/-- An aggregate over sandboxes: a miner's budget, or the part of it that is in use. -/
@[ext] structure Capacity where
  cpuMillis : ℤ
  diskMiB : ℤ
  memoryMiB : ℤ
  sandboxes : ℤ
  deriving DecidableEq, Repr

namespace Capacity

/-- `c` plus one sandbox of `r`. -/
def add (c : Capacity) (r : Resources) : Capacity :=
  ⟨c.cpuMillis + r.cpuMillis, c.diskMiB + r.diskMiB, c.memoryMiB + r.memoryMiB, c.sandboxes + 1⟩

/-- The component-wise sum. -/
def plus (c other : Capacity) : Capacity :=
  ⟨c.cpuMillis + other.cpuMillis, c.diskMiB + other.diskMiB, c.memoryMiB + other.memoryMiB,
    c.sandboxes + other.sandboxes⟩

/-- Every component of `c` is nonnegative and at most the matching component of `limit`. -/
def within (c limit : Capacity) : Bool :=
  0 ≤ c.cpuMillis && 0 ≤ c.diskMiB && 0 ≤ c.memoryMiB && 0 ≤ c.sandboxes &&
    c.cpuMillis ≤ limit.cpuMillis && c.diskMiB ≤ limit.diskMiB && c.memoryMiB ≤ limit.memoryMiB &&
    c.sandboxes ≤ limit.sandboxes

/-- The empty capacity, `Capacity{}`. -/
def zero : Capacity := ⟨0, 0, 0, 0⟩

instance : Zero Capacity := ⟨zero⟩

instance : Add Capacity := ⟨plus⟩

instance : LE Capacity :=
  ⟨fun a b => a.cpuMillis ≤ b.cpuMillis ∧ a.diskMiB ≤ b.diskMiB ∧ a.memoryMiB ≤ b.memoryMiB ∧
    a.sandboxes ≤ b.sandboxes⟩

lemma zero_def : (0 : Capacity) = ⟨0, 0, 0, 0⟩ := rfl

lemma add_def (a b : Capacity) : a + b = a.plus b := rfl

lemma le_def (a b : Capacity) :
    a ≤ b ↔ a.cpuMillis ≤ b.cpuMillis ∧ a.diskMiB ≤ b.diskMiB ∧ a.memoryMiB ≤ b.memoryMiB ∧
      a.sandboxes ≤ b.sandboxes := Iff.rfl

instance : AddCommMonoid Capacity where
  add_assoc a b c := by ext <;> simp only [add_def, plus] <;> omega
  zero_add a := by ext <;> simp [add_def, plus, zero_def]
  add_zero a := by ext <;> simp [add_def, plus, zero_def]
  add_comm a b := by ext <;> simp only [add_def, plus] <;> omega
  nsmul := nsmulRec

instance : PartialOrder Capacity where
  le_refl a := by simp [le_def]
  le_trans a b c hab hbc := by simp only [le_def] at *; omega
  le_antisymm a b hab hba := by
    simp only [le_def] at *
    ext <;> omega

instance : IsOrderedAddMonoid Capacity where
  add_le_add_left a b hab c := by
    simp only [le_def, add_def, plus] at *
    omega

/-- `Within` is a pair of bounds in the component-wise order. -/
lemma within_iff (c limit : Capacity) : c.within limit = true ↔ 0 ≤ c ∧ c ≤ limit := by
  simp only [within, Bool.and_eq_true, decide_eq_true_eq, le_def, zero_def]
  omega

/-- The capacity one sandbox of `r` consumes. -/
def ofResources (r : Resources) : Capacity := ⟨r.cpuMillis, r.diskMiB, r.memoryMiB, 1⟩

lemma add_eq (c : Capacity) (r : Resources) : c.add r = c + ofResources r := rfl

/-- An allocation inside the per-sandbox bounds consumes a nonnegative capacity. -/
lemma ofResources_nonneg {r : Resources} (h : r.validate = .ok ()) : 0 ≤ ofResources r := by
  unfold Resources.validate at h
  split at h
  · cases h
  · simp only [le_def, zero_def, ofResources]
    omega

end Capacity

/-! ## Receipt stages and error codes -/

/-- The stages of a lease receipt: `held` and `refused` answer a reservation, the rest a lease, a
renewal or a release. -/
inductive Stage
  | held | refused | accepted | ready | failed | released | expired
  deriving DecidableEq, Repr

/-- The stages after which a lease never runs again. -/
def Stage.terminal : Stage → Bool
  | .failed | .released | .expired => true
  | _ => false

/-- `ReceiptErrorAttribution`: every lease receipt error code, with whether it is attributed to
the miner. -/
def receiptErrorAttribution : List (String × Bool) :=
  [("capacity_exhausted", false), ("resources_unsupported", false),
    ("network_policy_unsupported", false), ("isolation_unsupported", false),
    ("secret_delivery_unsupported", false), ("sandbox_disabled", false),
    ("released_before_use", false), ("hold_expired", false), ("lease_expired", false),
    ("image_unavailable", false), ("runtime_start_failed", true), ("miner_restart", true)]

/-- `OpErrorAttribution`: every op receipt error code, with whether it is attributed to the
miner. -/
def opErrorAttribution : List (String × Bool) :=
  [("lease_not_running", false), ("sandbox_exited", false), ("lease_expired", false),
    ("released", false), ("exec_not_found", false), ("exec_limit_exceeded", false),
    ("path_not_found", false), ("path_exists", false), ("path_not_file", false),
    ("path_not_directory", false), ("path_refused", false), ("directory_not_empty", false),
    ("permission_denied", false), ("no_space", false), ("file_too_large", false),
    ("offset_mismatch", false), ("op_deadline_exceeded", false), ("ops_unsupported", false),
    ("sandbox_disabled", false), ("sandbox_op_failed", false),
    ("sandbox_resources_exhausted", false), ("op_runtime_failed", true), ("miner_restart", true)]

/-! ## Declarations carried by a lease -/

/-- `sortedUnique`: strictly increasing byte order. -/
def sortedUnique : List String → Bool
  | a :: b :: rest => decide (a < b) && sortedUnique (b :: rest)
  | _ => true

/-- The egress policy of one sandbox. `allow` is `none` where the JSON member is null. -/
structure NetworkPolicy where
  allow : Option (List String)
  mode : String
  deriving DecidableEq, Repr

/-- The allowlist is present, empty unless the mode is `allowlist`, and then 1..64 sorted unique
entries. `validAllowEntry` recognises a hostname or a canonical CIDR prefix. -/
def NetworkPolicy.validate (validAllowEntry : String → Bool) (p : NetworkPolicy) :
    Except String Unit :=
  match p.allow with
  | none => .error "network allow must be an array"
  | some allow =>
    if p.mode = "none" ∨ p.mode = "public" then
      if allow ≠ [] then .error "network allow is only valid in allowlist mode" else .ok ()
    else if p.mode ≠ "allowlist" then .error "network mode is invalid"
    else if allow.length = 0 ∨ allow.length > 64 ∨ ¬ sortedUnique allow then
      .error "network allowlist must hold 1..64 sorted unique entries"
    else if ¬ allow.all validAllowEntry then
      .error "network allowlist entry is not a hostname or canonical CIDR"
    else .ok ()

/-- `ValidIsolation`. -/
def validIsolation (value : String) : Bool :=
  value == "gvisor" || value == "kata" || value == "firecracker"

/-- `ValidateEnv`: the signed environment is the empty object, never null. -/
def validateEnv (env : Option (List (String × String))) : Except String Unit :=
  match env with
  | none => .error "env must be an object"
  | some [] => .ok ()
  | some _ => .error "env must be empty: customer environment is declared in secret_env"

/-- `ValidEnvName`: a letter or underscore, then at most 127 letters, digits and underscores. -/
def validEnvName (value : String) : Bool :=
  match value.toList with
  | [] => false
  | c :: rest =>
    (c.isAlpha || c == '_') && rest.length ≤ 127 && rest.all fun d => d.isAlphanum || d == '_'

/-- The secret environment variables of a lease, by name only. -/
structure SecretEnv where
  bundleDigest : Option String
  delivery : String
  names : Option (List String)
  deriving DecidableEq, Repr

/-- `ValidReleaseReason`. -/
def validReleaseReason (value : String) : Bool :=
  ["customer_delete", "ttl_expired", "placement_aborted", "hold_unused", "liveness_lost",
    "operator_takedown"].contains value

end Misscomputer.Sandbox
