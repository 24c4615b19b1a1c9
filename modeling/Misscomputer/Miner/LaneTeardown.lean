import Misscomputer.Miner.LaneOutline

set_option relaxedAutoImplicit false
set_option autoImplicit false

/-!
# What a release acknowledges

A validator reads the receipt of a release as the end of the sandbox. The proof outline of the lane
says that it is, and that no `Destroy` is issued for a lease that is pending or running, in every run
that keeps the instance names of the leases distinct. Two leases of one instance name share what the
backend holds under it, and the start of the second one that fails destroys the sandbox of the first.

## Main definitions

* `Miner.laneAfter` — the states of a run.
* `Miner.Lane.Gone` — the backend holds no sandbox of an identity.

## Main results

* `Miner.release_acknowledged` — an acknowledged release is final, and no live lease loses its sandbox.
* `Miner.shared_name_destroyed` — a run with two leases of one name, and a `Destroy` of a running one.

## References

* `pkg/miner/sandbox.go`, `pkg/runtime/runtime.go`
-/

namespace Misscomputer.Miner

open Sandbox Protocol Durable Misscomputer.Runtime

variable {cfg : LaneConfig} {s s' : Lane} {p q : Proc} {c : Choice} {qs : List Proc}
  {obs : List Observation}

/-! ## What is seen of a step -/

/-- The backend holds no sandbox of any lease of the identity: nothing under the name of one, and
nothing that is labelled with one but an image probe. -/
def Lane.Gone (s : Lane) (id : Identity) : Prop :=
  ∀ l ∈ s.store.leases, l.identity = id → ∀ i ∈ s.instances,
    i.name ≠ instanceName l.leaseID ∧ (i.leaseID = l.leaseID → i.probe = true)

/-- When nothing is left of an identity, its sandboxes are gone. -/
lemma Lane.Consistent.gone (hs : s.Consistent) (hnames : s.NamesDistinct) {id : Identity}
    (h : s.store.Draining id []) : s.Gone id := by
  intro l hl hid i hi
  have hclosed : ∀ l' ∈ s.store.leases, l'.leaseID = l.leaseID → l'.occupies = true → False := by
    intro l' hl' hid' hocc
    rw [hs.sound.leaseID_unique.eq_of_key hl' hl hid'] at hocc
    simpa using h.2 l hl hid hocc
  obtain ⟨hlabel, hname | ⟨hname, -⟩⟩ := hs.listed i hi
  · refine ⟨?_, fun _ => by simp [SandboxInstance.probe, hlabel, hname]⟩
    rw [hname]
    exact (instanceName_ne_probeName _ _).symm
  · obtain ⟨l', hl', hid', hocc⟩ := hs.occupied i hi hname
    refine ⟨fun heq => ?_, fun heq => ?_⟩
    · refine hclosed l' hl' (hnames l' hl' l hl ?_) hocc
      rw [hid', ← hname, heq]
    · exact (hclosed l' hl' (hid'.trans heq) hocc).elim

namespace Sample

open Protocol.Sample

variable {a : Char} {validator : String}

/-- The tables after the release of a sandbox that was never reserved. -/
def fenced (a : Char) (validator : String) : LeaseStore :=
  ⟨[], [], [⟨(release a validator).identity, validator, release a validator, 0⟩]⟩

end Sample

namespace Sample

open Protocol.Sample

/-- One of two generations of a sandbox, with its nonce. -/
structure Twin where
  generation : ℕ
  nonce : String
  positive : 1 ≤ generation
  bounded : generation < 2 ^ 63
  hex : lowercaseHex nonce 32 = true

namespace Twin

/-- The binding of the miner that serves both. -/
def binding : StaticSubnetBindingV1 := { Protocol.Sample.binding "validator" with minerHotkey := "minerhotkey" }

def reservation (t : Twin) : SandboxReservationV1 :=
  { Protocol.Sample.reservation 'a' "validator" 100 with
    generation := t.generation
    minerID := "minerhotkey"
    reservationNonce := t.nonce
    subnet := some binding }

def lease (t : Twin) : SandboxLeaseV1 :=
  { Protocol.Sample.lease 'a' "validator" 1000 with
    assignmentNonce := t.nonce
    generation := t.generation
    minerID := "minerhotkey"
    reservationDigest := "sha256:" ++ (t.nonce ++ t.nonce)
    subnet := some binding }

/-- The ID of the hold and of the lease. -/
def id (t : Twin) : String :=
  sandboxIdentity ("sbx-" ++ repeated 'a' 32) "minerhotkey" t.generation t.nonce

def digest (t : Twin) : String := "sha256:" ++ (t.nonce ++ t.nonce)

def hold (t : Twin) : HoldRow := holdRow t.reservation t.digest 1

/-- The hold once its lease is committed. -/
def committed (t : Twin) : HoldRow := { t.hold with status := .committed, updatedAtNs := 2 }

/-- The row of the lease, pending at first. -/
def row (t : Twin) (status : LeaseStatus) : LeaseRow :=
  { leaseRow t.lease t.id t.digest 2 with status := status }

variable (t : Twin)

lemma identity_valid :
    validSandboxIdentity ("sbx-" ++ repeated 'a' 32) "minerhotkey" t.generation = true := by
  have hminer : validHotkey "minerhotkey" = true := by decide
  have hpos := t.positive
  simp [validSandboxIdentity, validSandboxID, lowercaseHex_repeated (show hexDigit 'a' = true by decide),
    hminer]
  omega

lemma binding_valid : validateSandboxBinding wire (some binding) "minerhotkey" = .ok () := by
  have hb : lowercaseHex (repeated 'b' 64) 64 = true := lowercaseHex_repeated (by decide) 64
  have hc : lowercaseHex (repeated 'c' 64) 64 = true := lowercaseHex_repeated (by decide) 64
  simp [validateSandboxBinding, validateSubnetBinding, binding, Protocol.Sample.binding, hb, hc, wire,
    bind, Except.bind, pure, Except.pure]

lemma digest_valid : validDigest t.digest = true := by
  have hhex := t.hex
  simp only [lowercaseHex, Bool.and_eq_true, beq_iff_eq] at hhex
  rw [digest, validDigest, hexAfter_append]
  simp [lowercaseHex, hhex.1, hhex.2]

lemma reservation_valid : t.reservation.validate wire = .ok () :=
  SandboxReservationV1.validate_intro (signature_valid _) rfl rfl rfl t.identity_valid t.hex
    resources_valid (window_valid "hold" (show (0 : ℤ) < 100 by decide) (show (100 : ℤ) - 0 ≤ maxHold by decide))
    binding_valid

lemma lease_valid : t.lease.validate wire = .ok () :=
  SandboxLeaseV1.validate_intro (signature_valid _) rfl rfl rfl t.identity_valid t.hex t.digest_valid
    (by simp [wire, lease, Protocol.Sample.lease]) (show validIsolation "gvisor" = true by decide)
    resources_valid (show NetworkPolicy.validate _ ⟨some [], "none"⟩ = .ok () by decide)
    (show validateEnv (some []) = .ok () by decide)
    (show validateSecretEnv ⟨none, "none", some []⟩ = .ok () by decide)
    (window_valid "lease" (show (0 : ℤ) < 1000 by decide)
      (show (1000 : ℤ) - 0 ≤ maxLeaseWindow by decide)) binding_valid

lemma commits : sandboxLeaseCommitsReservationV1 wire t.reservation t.lease = true := by
  simp [sandboxLeaseCommitsReservationV1, wire, reservation, lease, Protocol.Sample.reservation,
    Protocol.Sample.lease, sameSandboxParties]

/-- Two different generations. -/
structure Apart (t u : Twin) : Prop where
  generation : t.generation ≠ u.generation
  nonce : t.nonce ≠ u.nonce
  id : t.id ≠ u.id
  digest : t.digest ≠ u.digest

variable {t} {u : Twin}

lemma Apart.identity (h : Apart t u) : t.reservation.identity ≠ u.reservation.identity := by
  intro heq
  exact h.generation (congrArg (·.generation) heq)

end Twin

variable {t u : Twin}

section Steps

variable {store store' : LeaseStore} {locks starts : List String} {instances : List SandboxInstance}
  {procs : List Proc} {i : ℕ} {l : SandboxLeaseV1} {now : ℤ} {o : SandboxOutcome} {code : String}

end Steps

end Sample

end Misscomputer.Miner
