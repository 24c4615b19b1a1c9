import Misscomputer.Lib.Machine
import Misscomputer.Static.Revocation
import Misscomputer.Organic.Corroboration
import Misscomputer.Static.RecordSize

set_option relaxedAutoImplicit false
set_option autoImplicit false

/-!
# The static epochs of a validator

The envelope of the highest accepted snapshot is a file of the validator. Every epoch verifies it again under the
pinned policies, offers it the snapshot of the operator, and judges the static deployments of its manifest under
what it then holds. Files can be unreadable, an installation can stop before or after the file is replaced, and
the process can end at any of these points: the next epoch starts from the file.

## Main definitions

* `StaticRevocation.lockRevocation`, `StaticRevocation.installRevocationHighWater`,
  `StaticRevocation.revocationGate`, `StaticRevocation.loadStaticEpoch` — the functions of the source.
* `StaticRevocation.runEpoch` — one epoch, from the file to the file.
* `StaticRevocation.Installs` — what an epoch may do to the file.

## Main results

* `StaticRevocation.installs_runEpoch` — an epoch leaves the file or advances it.
* `StaticRevocation.highWater_run` — so does every run.
* `StaticRevocation.judged_of_runEpoch` — how an epoch judges the deployments, and under which snapshot.
* `StaticRevocation.revocation_is_final` — what was revoked once is never judged again.
* `StaticRevocation.revoked_index_unavailable` — a revoked index whose documents are gone is not recorded as revoked.

## Implementation notes

What comes from outside the revocation is part of an epoch: the manifest that was verified or the code with which
that failed, the documents that were fetched for each deployment, and whether the time for it was over. An
exception is the code of the refusal; the caller then abstains for the whole epoch.

## References

* `src/misscomputer_subnet/static_runtime.py`
* `src/misscomputer_subnet/assignment_probe_cli.py` (`_StateRoot`)
-/

namespace Misscomputer

namespace StaticRevocation

open Contract
open Except (reject)
open Manifest (ActiveAssignmentManifestV3)
open StaticIndex
open StaticScoring (AbstentionCode Network StaticIndexAbstention)

/-! ## Epochs -/

/-- The part of `StaticSitesConfig` that is about releases and revocations. A digest-pinned file is its bytes or
the code of their refusal, another file its bytes where it can be read. -/
structure StaticSitesConfig where
  releaseTrustPolicy : Except String (List UInt8)
  serverImplementationDigest : String
  revocationPolicy : Option (Option (List UInt8))
  revocationPolicyDigest : Option String
  revocationProofPolicies : List (Except String (List UInt8))
  revocationSnapshot : Option (Option (List UInt8))
  revocationMaxAgeSeconds : ℤ

/-- How `install_document` ends: the file is installed, or the call stops before or after the file is replaced. -/
inductive Installing
  | completes
  | stops (replaced : Bool)

/-- What loading and verifying the manifest of an epoch, and moving the state of its chain, came to. -/
inductive Publication
  | refused (code : String)
  | abstained (code : String)
  | verified (manifest : ActiveAssignmentManifestV3)

/-- One static epoch: its configuration, and what it meets. -/
structure Epoch where
  config : StaticSitesConfig
  network : Network
  /-- Whether `_lock_revocation` and `_install_revocation_high_water` find a safe file. -/
  lockSafe : Bool
  installSafe : Bool
  installing : Installing
  publication : Publication
  epochIndex : ℕ
  evaluationEpoch : ℤ
  /-- Whether the deadline is over when the turn of a deployment comes, and else its fetched documents. -/
  late : StaticDeploymentTarget → Bool
  documents : StaticDeploymentTarget → Option (List UInt8) × Option (List UInt8)

/-- `StaticRevocationState`. -/
structure StaticRevocationState where
  policy : StaticSiteReleaseRevocationTrustPolicy
  releasePolicies : List StaticSiteReleaseTrustPolicy
  held : Option VerifiedRevocation

/-- The part of `StaticEpochRun` that `load_static_epoch` fills in. -/
structure StaticEpochRun where
  abstainedCode : Option String
  indexes : List ReleasedIndex
  abstentions : List StaticIndexAbstention
  revocation : Option StaticRevocationState

/-- What a step of an epoch raises: `AssignmentProbeCLIError` or `StaticRevocationError`. -/
inductive Failure
  | cli (code : String)
  | revocation (code : RevocationCode)

/-! ## Files -/

/-- `_StateRoot.read_document` of the high water. -/
def readDocument (file : Option (List UInt8)) (safe : Bool) : Except String (Option (List UInt8)) := do
  reject (safe = false ∨ ∃ rendered ∈ file, rendered = [] ∨ maxBoundRevocationBytes < rendered.length)
    "static_revocation_file_unsafe"
  return file

/-- `_load_unpinned_file`. -/
def loadUnpinnedFile (file : Option (List UInt8)) (unavailable : String) (maxBytes : ℕ) :
    Except String (List UInt8) :=
  match file with
  | none => .error unavailable
  | some rendered => do
    reject (maxBytes < rendered.length) unavailable
    return rendered

/-- `_load_release_policy`. -/
def loadReleasePolicy (file : Except String (List UInt8)) : Except String StaticSiteReleaseTrustPolicy := do
  let rendered ← file
  match parseStaticSiteReleaseTrustPolicy rendered with
  | .ok policy => .ok policy
  | .error _ => .error "static_release_trust_policy_invalid"

/-- `_check_revocation_options`. -/
def checkRevocationOptions (config : StaticSitesConfig) : Except String Unit := do
  reject (config.revocationPolicy.isNone ≠ config.revocationPolicyDigest.isNone) "usage"
  reject (config.revocationPolicy.isNone ∧ (config.revocationSnapshot.isSome ∨ config.revocationProofPolicies ≠ [] ∨
    config.revocationMaxAgeSeconds ≠ 86400)) "usage"
  reject (maxReleaseProofPolicies < config.revocationProofPolicies.length + 1) "usage"
  reject (∃ digest ∈ config.revocationPolicyDigest, ¬ hex64 digest) "static_revocation_policy_digest_invalid"
  reject (¬ (300 ≤ config.revocationMaxAgeSeconds ∧ config.revocationMaxAgeSeconds ≤ maxMaxAgeSeconds))
    "static_revocation_max_age_invalid"

section Steps

variable (ed25519 : String → String → List UInt8 → Bool)

/-! ## The high water of an epoch -/

/-- The envelope in the file, verified again. -/
def verifyStored (stored : Option (List UInt8)) (policy : StaticSiteReleaseRevocationTrustPolicy)
    (releasePolicies : List StaticSiteReleaseTrustPolicy) : Except String (Option VerifiedRevocation) :=
  match stored with
  | none => .ok none
  | some stored =>
    match verifyBoundStaticSiteReleaseRevocation ed25519 stored policy releasePolicies with
    | .ok bound => .ok (some bound.verified)
    | .error _ => .error "static_revocation_high_water_invalid"

/-- `_lock_revocation` under a policy. -/
def lockPolicy (stored : Option (List UInt8)) (config : StaticSitesConfig) (policyFile : Option (List UInt8))
    (pinned : String) : Except String StaticRevocationState := do
  let releasePolicies ← (config.releaseTrustPolicy :: config.revocationProofPolicies).mapM loadReleasePolicy
  let rendered ← loadUnpinnedFile policyFile "static_revocation_policy_unavailable" maxRevocationPolicyBytes
  match parseStaticSiteReleaseRevocationTrustPolicy rendered pinned releasePolicies with
  | .error code => .error ("static_" ++ code.text)
  | .ok policy => do
    let held ← verifyStored ed25519 stored policy releasePolicies
    return ⟨policy, releasePolicies, held⟩

/-- `_lock_revocation`. -/
def lockRevocation (file : Option (List UInt8)) (e : Epoch) : Except String (Option StaticRevocationState) := do
  let stored ← readDocument file e.lockSafe
  match e.config.revocationPolicy, e.config.revocationPolicyDigest with
  | some policyFile, some pinned => do
    let state ← lockPolicy ed25519 stored e.config policyFile pinned
    return some state
  | _, _ => do
    reject (stored.isSome ∨ e.network = .finney) "static_revocation_policy_required"
    return none

/-- The first half of `_install_revocation_high_water`: what is held, and whether the offered envelope is to be
installed. -/
def compareStored (file : Option (List UInt8)) (state : StaticRevocationState) (offered : VerifiedBoundRevocation)
    (e : Epoch) : Except Failure (Option VerifiedRevocation × Bool) := do
  let stored ← (readDocument file e.installSafe).mapError Failure.cli
  let held ← (verifyStored ed25519 stored state.policy state.releasePolicies).mapError Failure.cli
  let installs ← (advanceStaticSiteReleaseRevocation held offered.verified).mapError Failure.revocation
  return (held, installs)

/-- `_install_revocation_high_water`: the file afterwards, and the state or what was raised. -/
def installRevocationHighWater (file : Option (List UInt8)) (state : StaticRevocationState)
    (offered : VerifiedBoundRevocation) (e : Epoch) : Option (List UInt8) × Except Failure StaticRevocationState :=
  match compareStored ed25519 file state offered e with
  | .error failure => (file, .error failure)
  | .ok (held, false) => (file, .ok { state with held := held })
  | .ok (_, true) =>
    match e.installing with
    | .completes => (some offered.stored, .ok { state with held := some offered.verified })
    | .stops replaced =>
      (if replaced then some offered.stored else file, .error (.cli "static_revocation_write_failed"))

/-- The offered envelope of the operator, verified. -/
def readOffer (state : StaticRevocationState) (snapshot : Option (List UInt8)) :
    Except Failure VerifiedBoundRevocation := do
  let offeredBytes ← (loadUnpinnedFile snapshot "static_revocation_snapshot_unavailable"
    maxBoundRevocationBytes).mapError Failure.cli
  (verifyBoundStaticSiteReleaseRevocation ed25519 offeredBytes state.policy state.releasePolicies).mapError
    Failure.revocation

/-- The offer of the operator: the file afterwards, and the state, or the code of an abstention, or what was
raised. -/
def offerSnapshot (file : Option (List UInt8)) (state : StaticRevocationState) (snapshot : Option (List UInt8))
    (e : Epoch) : Option (List UInt8) × Except Failure (Option String × StaticRevocationState) :=
  match readOffer ed25519 state snapshot with
  | .error failure => (file, .error failure)
  | .ok offered =>
    if revocationFreshness offered.verified e.evaluationEpoch maxMaxAgeSeconds = some .issuedInFuture then
      (file, .ok (some "static_revocation_issued_in_future", state))
    else
      let (file', result) := installRevocationHighWater ed25519 file state offered e
      (file', result.map fun state' => (none, state'))

/-- The second half of `_revocation_gate`: the code of the abstention, when there is one, and the state. -/
def judgeHeld (state : StaticRevocationState) (e : Epoch) :
    Except Failure (Option String × StaticRevocationState) → Except String (Option String × StaticRevocationState)
  | .error (.cli code) =>
    if code = "static_revocation_snapshot_unavailable" then .ok (some code, state) else .error code
  | .error (.revocation code) => .ok (some ("static_" ++ code.text), state)
  | .ok (some code, state') => .ok (some code, state')
  | .ok (none, state') =>
    match state'.held with
    | none => .ok (some "static_revocation_unavailable", state')
    | some held =>
      .ok ((revocationFreshness held e.evaluationEpoch e.config.revocationMaxAgeSeconds).map
        fun code => "static_" ++ code.text, state')

/-- `_revocation_gate`, of an epoch with a policy. -/
def revocationGate (file : Option (List UInt8)) (state : StaticRevocationState) (e : Epoch) :
    Option (List UInt8) × Except String (Option String × StaticRevocationState) :=
  let (file', offered) := match e.config.revocationSnapshot with
    | none => (file, .ok (none, state))
    | some snapshot => offerSnapshot ed25519 file state snapshot e
  (file', judgeHeld state e offered)

/-! ## The deployments of an epoch -/

variable (reported : List UInt8 → AbstentionCode)

/-- The index of a deployment, when there was time for it. -/
def loadIndex (releasePolicy : StaticSiteReleaseTrustPolicy) (e : Epoch) (target : StaticDeploymentTarget) :
    Except AbstentionCode ReleasedIndex :=
  if e.late target then .error .indexUnavailable
  else ingestStaticIndex ed25519 reported target (e.documents target).1 (e.documents target).2 releasePolicy
    e.config.serverImplementationDigest

/-- One round of the loop over the deployments: an index, or the code of the abstention. -/
def judgeTarget (held : Option VerifiedRevocation) (releasePolicy : StaticSiteReleaseTrustPolicy) (e : Epoch)
    (target : StaticDeploymentTarget) : Except AbstentionCode ReleasedIndex := do
  reject (∃ h ∈ held, h.releaseRevoked target.releaseDigest ∨ h.siteRevoked target.siteDigest) .releaseRevoked
  let index ← loadIndex ed25519 reported releasePolicy e target
  reject (∃ h ∈ held, staticIndexRevoked h index releasePolicy) .releaseRevoked
  return index

/-- `targets[start:] + targets[:start]`. -/
def rotated (targets : List StaticDeploymentTarget) (epochIndex : ℕ) : List StaticDeploymentTarget :=
  let start := epochIndex % targets.length
  targets.drop start ++ targets.take start

/-- The loop over the deployments. -/
def loadIndexes (revocation : Option StaticRevocationState) (releasePolicy : StaticSiteReleaseTrustPolicy)
    (e : Epoch) (manifest : ActiveAssignmentManifestV3) : StaticEpochRun :=
  (rotated (staticDeploymentTargets manifest) e.epochIndex).foldl
    (fun run target =>
      match judgeTarget ed25519 reported (revocation.bind StaticRevocationState.held) releasePolicy e target with
      | .ok index => { run with indexes := run.indexes ++ [index] }
      | .error code =>
        { run with abstentions := run.abstentions ++ [⟨target.deploymentID, target.siteDigest, code⟩] })
    ⟨none, [], [], revocation⟩

/-- The gate of an epoch, which is open without a policy. -/
def gate (file : Option (List UInt8)) (revocation : Option StaticRevocationState) (e : Epoch) :
    Option (List UInt8) × Except String (Option String × Option StaticRevocationState) :=
  match revocation with
  | none => (file, .ok (none, none))
  | some state =>
    let (file', judged) := revocationGate ed25519 file state e
    (file', judged.map fun result => (result.1, some result.2))

/-- `load_static_epoch`: the file afterwards, and the epoch, or the code of what was raised. -/
def loadStaticEpoch (file : Option (List UInt8)) (revocation : Option StaticRevocationState)
    (releasePolicy : StaticSiteReleaseTrustPolicy) (e : Epoch) : Option (List UInt8) × Except String StaticEpochRun :=
  match e.publication with
  | .refused code => (file, .error code)
  | .abstained code => (file, .ok ⟨some code, [], [], revocation⟩)
  | .verified manifest =>
    let (file', gated) := gate ed25519 file revocation e
    (file', gated.map fun result =>
      match result.1 with
      | some code => ⟨some code, [], [], result.2⟩
      | none => loadIndexes ed25519 reported result.2 releasePolicy e manifest)

/-- What an epoch does before its manifest is loaded: `preflight_static` and `lock_static_epoch`. -/
def openEpoch (file : Option (List UInt8)) (e : Epoch) :
    Except String (StaticSiteReleaseTrustPolicy × Option StaticRevocationState) := do
  checkRevocationOptions e.config
  let releasePolicy ← loadReleasePolicy e.config.releaseTrustPolicy
  let revocation ← lockRevocation ed25519 file e
  return (releasePolicy, revocation)

/-- One epoch: the file afterwards, and the epoch, or the code of what was raised. -/
def runEpoch (file : Option (List UInt8)) (e : Epoch) : Option (List UInt8) × Except String StaticEpochRun :=
  match openEpoch ed25519 file e with
  | .error code => (file, .error code)
  | .ok (releasePolicy, revocation) => loadStaticEpoch ed25519 reported file revocation releasePolicy e

end Steps

/-! ## What an epoch does to the file -/

/-- What an epoch, or a run of them, may do to the file: nothing, or install the first snapshot, or one that
advances the last. -/
inductive Installs : Option (List UInt8) → Option (List UInt8) → Prop
  | same (file : Option (List UInt8)) : Installs file file
  | first {stored : List UInt8} {s : StaticSiteReleaseRevocation} (hs : snapshotOf stored = some s) (hvalid : s.Valid) :
    Installs none (some stored)
  | advances {stored stored' : List UInt8} {s s' : StaticSiteReleaseRevocation} (hs : snapshotOf stored = some s)
      (hs' : snapshotOf stored' = some s') (hvalid : s'.Valid) (hadvances : Advances s s') :
    Installs (some stored) (some stored')

/-- Two installations in a row. -/
lemma Installs.trans {a b c : Option (List UInt8)} (hab : Installs a b) (hbc : Installs b c) : Installs a c := by
  cases hbc with
  | same => exact hab
  | first hs hvalid =>
    cases hab with
    | same => exact .first hs hvalid
  | advances hs hs' hvalid hadvances =>
    cases hab with
    | same => exact .advances hs hs' hvalid hadvances
    | first _ _ => exact .first hs' hvalid
    | advances ht ht' hvalid' hadvances' =>
      -- the snapshot in between is read from the same bytes
      obtain rfl := Option.some.inj (ht'.symm.trans hs)
      exact .advances ht hs' hvalid (hadvances'.trans hvalid' hadvances)

section Facts

variable {ed25519 : String → String → List UInt8 → Bool} {file : Option (List UInt8)} {e : Epoch}

/-- What is held is what the file says: its envelope, verified. -/
def Holds (ed25519 : String → String → List UInt8 → Bool) (file : Option (List UInt8))
    (state : StaticRevocationState) : Prop :=
  verifyStored ed25519 file state.policy state.releasePolicies = .ok state.held

lemma readDocument_eq_ok {safe : Bool} {stored : Option (List UInt8)} (h : readDocument file safe = .ok stored) :
    stored = file := by
  simp only [readDocument, Except.bind_eq_ok, Except.reject_eq_ok, exists_const, pure, Except.pure,
    Except.ok.injEq] at h
  exact h.2.symm

/-- What is held of a file is in its envelope, which was verified. -/
lemma verifyStored_eq_some {stored : List UInt8} {policy : StaticSiteReleaseRevocationTrustPolicy}
    {releasePolicies : List StaticSiteReleaseTrustPolicy} {held : Option VerifiedRevocation}
    (h : verifyStored ed25519 (some stored) policy releasePolicies = .ok held) :
    ∃ bound, verifyBoundStaticSiteReleaseRevocation ed25519 stored policy releasePolicies = .ok bound ∧
      held = some bound.verified := by
  rw [verifyStored] at h
  split at h
  · rename_i bound hbound
    exact ⟨bound, hbound, (Except.ok.inj h).symm⟩
  · cases h

/-- **What an installation does.** The file is left or advanced, and a state that is returned holds what the file
then says. -/
lemma installRevocationHighWater_spec {state : StaticRevocationState} {offered : VerifiedBoundRevocation}
    {bytes : List UInt8}
    (hoffered : verifyBoundStaticSiteReleaseRevocation ed25519 bytes state.policy state.releasePolicies = .ok offered) :
    Installs file (installRevocationHighWater ed25519 file state offered e).1 ∧
      ∀ state', (installRevocationHighWater ed25519 file state offered e).2 = .ok state' →
        Holds ed25519 (installRevocationHighWater ed25519 file state offered e).1 state' ∧
          state'.releasePolicies = state.releasePolicies := by
  obtain ⟨hbytes, hsnapshot, hvalid, -, -⟩ := verifyBound_eq_ok hoffered
  rw [← hbytes] at hsnapshot hoffered
  rw [installRevocationHighWater]
  cases hcompare : compareStored ed25519 file state offered e with
  | error failure => exact ⟨.same file, nofun⟩
  | ok compared =>
    obtain ⟨held, installs⟩ := compared
    simp only [compareStored, Except.bind_eq_ok, Except.mapError_eq_ok, pure, Except.pure, Except.ok.injEq,
      Prod.mk.injEq] at hcompare
    obtain ⟨stored, hread, held', hheld, installs', hadvance, rfl, rfl⟩ := hcompare
    obtain rfl := readDocument_eq_ok hread
    have hinstalls : installs' = true → Installs stored (some offered.stored) := by
      rintro rfl
      cases stored with
      | none => exact .first hsnapshot hvalid
      | some stored =>
        obtain ⟨bound, hbound, rfl⟩ := verifyStored_eq_some hheld
        exact .advances (verifyBound_eq_ok hbound).2.1 hsnapshot hvalid (advance_eq_true hadvance)
    cases installs' with
    | false =>
      refine ⟨.same stored, ?_⟩
      rintro state' ⟨⟩
      exact ⟨hheld, rfl⟩
    | true =>
      dsimp only
      cases e.installing with
      | completes =>
        refine ⟨hinstalls rfl, ?_⟩
        rintro state' ⟨⟩
        refine ⟨?_, rfl⟩
        rw [Holds, verifyStored, hoffered]
      | stops replaced =>
        refine ⟨?_, nofun⟩
        cases replaced with
        | false => exact .same stored
        | true => exact hinstalls rfl

/-- What the offer of a snapshot does. -/
lemma offerSnapshot_spec {state : StaticRevocationState} {snapshot : Option (List UInt8)}
    (hholds : Holds ed25519 file state) :
    Installs file (offerSnapshot ed25519 file state snapshot e).1 ∧
      ∀ code state', (offerSnapshot ed25519 file state snapshot e).2 = .ok (code, state') →
        Holds ed25519 (offerSnapshot ed25519 file state snapshot e).1 state' ∧
          state'.releasePolicies = state.releasePolicies := by
  rw [offerSnapshot]
  cases hoffer : readOffer ed25519 state snapshot with
  | error failure => exact ⟨.same file, nofun⟩
  | ok offered =>
    simp only [readOffer, Except.bind_eq_ok, Except.mapError_eq_ok] at hoffer
    obtain ⟨bytes, -, hverified⟩ := hoffer
    obtain ⟨hinstalls, hstate⟩ := @installRevocationHighWater_spec _ file e _ _ _ hverified
    dsimp only
    split
    · refine ⟨.same file, ?_⟩
      rintro code state' ⟨⟩
      exact ⟨hholds, rfl⟩
    · refine ⟨hinstalls, fun code state' heq => ?_⟩
      dsimp only at heq
      cases hresult : (installRevocationHighWater ed25519 file state offered e).2 with
      | error failure => simp [hresult, Except.map] at heq
      | ok state'' =>
        rw [hresult] at heq
        cases heq
        exact hstate _ hresult

/-- An abstention apart, the second half of the gate passes a state on that holds something. -/
lemma judgeHeld_eq_none {state state' : StaticRevocationState}
    {offered : Except Failure (Option String × StaticRevocationState)}
    (h : judgeHeld state e offered = .ok (none, state')) : offered = .ok (none, state') ∧ state'.held.isSome := by
  match offered with
  | .error (.cli code) =>
    rw [judgeHeld] at h
    split at h <;> cases h
  | .error (.revocation code) => cases h
  | .ok (some code, _) => cases h
  | .ok (none, other) =>
    rw [judgeHeld] at h
    split at h
    · cases h
    · rename_i held hheld
      obtain ⟨-, rfl⟩ := Prod.mk.inj (Except.ok.inj h)
      exact ⟨rfl, by rw [hheld]; rfl⟩

/-- What the gate does. -/
lemma revocationGate_spec {state : StaticRevocationState} (hholds : Holds ed25519 file state) :
    Installs file (revocationGate ed25519 file state e).1 ∧
      ∀ state', (revocationGate ed25519 file state e).2 = .ok (none, state') →
        Holds ed25519 (revocationGate ed25519 file state e).1 state' ∧
          state'.releasePolicies = state.releasePolicies ∧ state'.held.isSome := by
  rw [revocationGate]
  cases e.config.revocationSnapshot with
  | none =>
    refine ⟨.same file, fun state' heq => ?_⟩
    have hjudged : judgeHeld state e (.ok (none, state)) = .ok (none, state') := heq
    obtain ⟨hoffered, hsome⟩ := judgeHeld_eq_none hjudged
    cases hoffered
    exact ⟨hholds, rfl, hsome⟩
  | some snapshot =>
    obtain ⟨hinstalls, hstate⟩ := @offerSnapshot_spec _ _ e _ snapshot hholds
    refine ⟨hinstalls, fun state' heq => ?_⟩
    obtain ⟨hoffered, hsome⟩ := judgeHeld_eq_none heq
    obtain ⟨hnext, hpolicies⟩ := hstate _ _ hoffered
    exact ⟨hnext, hpolicies, hsome⟩

/-- What is locked: without a policy there is no file, and with one the state holds what the file says. -/
lemma openEpoch_eq_ok {releasePolicy : StaticSiteReleaseTrustPolicy} {revocation : Option StaticRevocationState}
    (h : openEpoch ed25519 file e = .ok (releasePolicy, revocation)) :
    loadReleasePolicy e.config.releaseTrustPolicy = .ok releasePolicy ∧ (revocation = none → file = none) ∧
      ∀ state ∈ revocation, Holds ed25519 file state ∧ releasePolicy ∈ state.releasePolicies := by
  simp only [openEpoch, lockRevocation, Except.bind_eq_ok, pure, Except.pure, Except.ok.injEq, Prod.mk.injEq] at h
  obtain ⟨-, -, policy, hpolicy, locked, ⟨stored, hread, hlocked⟩, rfl, rfl⟩ := h
  obtain rfl := readDocument_eq_ok hread
  refine ⟨hpolicy, ?_⟩
  split at hlocked
  · simp only [lockPolicy, Except.bind_eq_ok, pure, Except.pure, Except.ok.injEq] at hlocked
    obtain ⟨state, ⟨policies, hpolicies, rendered, -, hstate⟩, rfl⟩ := hlocked
    refine ⟨fun hnone => absurd hnone (Option.some_ne_none _), ?_⟩
    rintro _ ⟨⟩
    split at hstate
    · cases hstate
    · simp only [Except.bind_eq_ok, Except.ok.injEq] at hstate
      obtain ⟨held, hheld, rfl⟩ := hstate
      refine ⟨hheld, ?_⟩
      -- the release policy is loaded from the first of the files
      obtain ⟨first, rest, hfirst, -, rfl⟩ := List.forall₂_cons_left_iff.mp (mapM_eq_ok_iff.mp hpolicies)
      rw [Except.ok.inj (hpolicy.symm.trans hfirst)]
      exact List.mem_cons_self
  · simp only [Except.bind_eq_ok, Except.reject_eq_ok, exists_const, Except.ok.injEq, not_or, Bool.not_eq_true,
      Option.isSome_eq_false_iff, Option.isNone_iff_eq_none] at hlocked
    obtain ⟨⟨hnone, -⟩, rfl⟩ := hlocked
    exact ⟨fun _ => hnone, fun state hstate => absurd hstate (Option.some_ne_none state).symm⟩

variable {reported : List UInt8 → AbstentionCode}

/-- What the gate of an epoch does. -/
lemma gate_spec {revocation : Option StaticRevocationState}
    (hholds : ∀ state ∈ revocation, Holds ed25519 file state) :
    Installs file (gate ed25519 file revocation e).1 ∧
      ∀ revocation', (gate ed25519 file revocation e).2 = .ok (none, revocation') →
        (revocation = none ∧ revocation' = none ∧ (gate ed25519 file revocation e).1 = file) ∨
          ∃ state state', revocation = some state ∧ revocation' = some state' ∧
            Holds ed25519 (gate ed25519 file revocation e).1 state' ∧
            state'.releasePolicies = state.releasePolicies ∧ state'.held.isSome := by
  cases revocation with
  | none =>
    refine ⟨.same file, ?_⟩
    rintro revocation' ⟨⟩
    exact Or.inl ⟨rfl, rfl, rfl⟩
  | some state =>
    obtain ⟨hinstalls, hstate⟩ := revocationGate_spec (e := e) (hholds state rfl)
    refine ⟨hinstalls, fun revocation' heq => Or.inr ?_⟩
    rw [gate] at heq
    cases hjudged : (revocationGate ed25519 file state e).2 with
    | error code => simp [hjudged, Except.map] at heq
    | ok result =>
      obtain ⟨code, state'⟩ := result
      simp only [hjudged, Except.map, Except.ok.injEq, Prod.mk.injEq] at heq
      obtain ⟨rfl, rfl⟩ := heq
      exact ⟨state, state', rfl, rfl, hstate state' hjudged⟩

/-- **An epoch leaves the file or advances it.** -/
theorem installs_runEpoch (file : Option (List UInt8)) (e : Epoch) :
    Installs file (runEpoch ed25519 reported file e).1 := by
  rw [runEpoch]
  cases hopen : openEpoch ed25519 file e with
  | error code => exact .same file
  | ok opened =>
    obtain ⟨releasePolicy, revocation⟩ := opened
    dsimp only
    rw [loadStaticEpoch]
    cases e.publication with
    | refused code => exact .same file
    | abstained code => exact .same file
    | verified manifest => exact (gate_spec fun state hstate => ((openEpoch_eq_ok hopen).2.2 state hstate).1).1

/-- **So does every run.** -/
theorem highWater_run (file : Option (List UInt8)) (es : List Epoch) :
    Installs file (Machine.run (runEpoch ed25519 reported) file es) :=
  Machine.run_rel (P := fun _ => True) Installs.same (fun _ _ _ => Installs.trans)
    (fun file _ e _ => ⟨trivial, installs_runEpoch file e⟩) trivial

/-! ## How an epoch judges -/

/-- The loop sorts the deployments into indexes and abstentions.

**Proof sketch.** Induction on the deployments that are left. -/
lemma mem_foldl {judge : StaticDeploymentTarget → Except AbstentionCode ReleasedIndex}
    (targets : List StaticDeploymentTarget) (run : StaticEpochRun) :
    let after := targets.foldl (fun run target =>
      match judge target with
      | .ok index => { run with indexes := run.indexes ++ [index] }
      | .error code =>
        { run with abstentions := run.abstentions ++ [⟨target.deploymentID, target.siteDigest, code⟩] }) run
    (∀ index, index ∈ after.indexes ↔ index ∈ run.indexes ∨ ∃ target ∈ targets, judge target = .ok index) ∧
      ∀ a, a ∈ after.abstentions ↔ a ∈ run.abstentions ∨ ∃ target ∈ targets, ∃ code, judge target = .error code ∧
        a = ⟨target.deploymentID, target.siteDigest, code⟩ := by
  induction targets generalizing run with
  | nil => simp
  | cons target targets ih =>
    dsimp only at ih ⊢
    rw [List.foldl_cons]
    obtain ⟨hindexes, habstentions⟩ := ih (match judge target with
      | .ok index => { run with indexes := run.indexes ++ [index] }
      | .error code =>
        { run with abstentions := run.abstentions ++ [⟨target.deploymentID, target.siteDigest, code⟩] })
    refine ⟨fun index => ?_, fun a => ?_⟩
    · rw [hindexes]
      cases hjudge : judge target with
      | ok other => simp [hjudge, or_assoc, eq_comm]
      | error code => simp [hjudge]
    · rw [habstentions]
      cases hjudge : judge target with
      | ok other => simp [hjudge]
      | error code => simp [hjudge, or_assoc]

lemma mem_rotated {targets : List StaticDeploymentTarget} {epochIndex : ℕ} {target : StaticDeploymentTarget} :
    target ∈ rotated targets epochIndex ↔ target ∈ targets := by
  rw [rotated, List.mem_append, or_comm, ← List.mem_append, List.take_append_drop]

/-- An epoch records an abstention of a deployment. -/
def StaticEpochRun.Records (run : StaticEpochRun) (target : StaticDeploymentTarget) (code : AbstentionCode) : Prop :=
  ⟨target.deploymentID, target.siteDigest, code⟩ ∈ run.abstentions

/-- What an epoch that judges its deployments has: its policy, its manifest, and what it holds. -/
structure Judged (ed25519 : String → String → List UInt8 → Bool) (reported : List UInt8 → AbstentionCode)
    (e : Epoch) (held : Option VerifiedRevocation) (releasePolicy : StaticSiteReleaseTrustPolicy)
    (manifest : ActiveAssignmentManifestV3) (run : StaticEpochRun) : Prop where
  loaded : loadReleasePolicy e.config.releaseTrustPolicy = .ok releasePolicy
  publication : e.publication = .verified manifest
  indexes : ∀ index, index ∈ run.indexes ↔ ∃ target ∈ staticDeploymentTargets manifest,
    judgeTarget ed25519 reported held releasePolicy e target = .ok index
  abstentions : ∀ a, a ∈ run.abstentions ↔ ∃ target ∈ staticDeploymentTargets manifest, ∃ code,
    judgeTarget ed25519 reported held releasePolicy e target = .error code ∧
      a = ⟨target.deploymentID, target.siteDigest, code⟩

/-- **How an epoch judges.** An epoch that did not abstain judges every deployment of its manifest under what the
file says afterwards; when the file was there before, that is a snapshot.

**Proof sketch.** The gate was open: without a policy there is no file, and with one the state that it passed on
holds what the file says. -/
theorem judged_of_runEpoch {run : StaticEpochRun} (h : (runEpoch ed25519 reported file e).2 = .ok run)
    (hnone : run.abstainedCode = none) : ∃ held releasePolicy manifest,
      Judged ed25519 reported e held releasePolicy manifest run ∧
        ∀ stored, file = some stored → ∃ stored' verified, (runEpoch ed25519 reported file e).1 = some stored' ∧
          held = some verified ∧ snapshotOf stored' = some verified.snapshot := by
  rw [runEpoch] at h ⊢
  cases hopen : openEpoch ed25519 file e with
  | error code => simp [hopen] at h
  | ok opened =>
    obtain ⟨releasePolicy, revocation⟩ := opened
    obtain ⟨hpolicy, hwithout, hstates⟩ := openEpoch_eq_ok hopen
    rw [hopen] at h
    dsimp only at h ⊢
    rw [loadStaticEpoch] at h ⊢
    cases hpublication : e.publication with
    | refused code => simp [hpublication] at h
    | abstained code =>
      simp only [hpublication, Except.ok.injEq] at h
      rw [← h] at hnone
      cases hnone
    | verified manifest =>
      simp only [hpublication] at h ⊢
      obtain ⟨hinstalls, hgate⟩ := gate_spec (e := e) fun state hstate => (hstates state hstate).1
      cases hgated : (gate ed25519 file revocation e).2 with
      | error code => simp [hgated, Except.map] at h
      | ok result =>
        obtain ⟨code, revocation'⟩ := result
        cases code with
        | some code =>
          simp only [hgated, Except.map, Except.ok.injEq] at h
          rw [← h] at hnone
          cases hnone
        | none =>
          simp only [hgated, Except.map, Except.ok.injEq] at h
          have hmem := @mem_foldl (judgeTarget ed25519 reported
            (revocation'.bind StaticRevocationState.held) releasePolicy e)
            (rotated (staticDeploymentTargets manifest) e.epochIndex) ⟨none, [], [], revocation'⟩
          rw [loadIndexes] at h
          rw [h] at hmem
          refine ⟨revocation'.bind StaticRevocationState.held, releasePolicy, manifest,
            ⟨hpolicy, hpublication, ?_, ?_⟩, ?_⟩
          · simpa [mem_rotated] using hmem.1
          · simpa [mem_rotated] using hmem.2
          · rintro stored rfl
            rcases hgate revocation' hgated with ⟨hnone', -⟩ | ⟨state, state', -, rfl, hholds, -, hsome⟩
            · exact absurd (hwithout hnone') nofun
            · obtain ⟨verified, hverified⟩ := Option.isSome_iff_exists.mp hsome
              rw [Holds] at hholds
              cases hfile : (gate ed25519 (some stored) revocation e).1 with
              | none =>
                rw [hfile, verifyStored, hverified] at hholds
                cases hholds
              | some stored' =>
                rw [hfile] at hholds
                obtain ⟨bound, hbound, hheld⟩ := verifyStored_eq_some hholds
                rw [hverified] at hheld
                obtain rfl := Option.some.inj hheld
                exact ⟨stored', bound.verified, rfl, hverified, (verifyBound_eq_ok hbound).2.1⟩

end Facts

/-! ## Finality -/

/-- What a later file keeps of the snapshot in an earlier one. -/
def Keeps (file file' : Option (List UInt8)) : Prop :=
  ∀ s, file.bind snapshotOf = some s → ∃ s', file'.bind snapshotOf = some s' ∧
    (file' = file ∨ s.sequence < s'.sequence) ∧ ¬ Before s'.issuedAt s.issuedAt ∧
    s.revokedReleases ⊆ s'.revokedReleases ∧ s.revokedSignerKeys ⊆ s'.revokedSignerKeys

/-- An installation keeps what was there. -/
lemma Installs.keeps {file file' : Option (List UInt8)} (h : Installs file file') : Keeps file file' := by
  intro s hs
  cases h with
  | same =>
    refine ⟨s, hs, Or.inl rfl, ?_, fun _ hr => hr, fun _ hk => hk⟩
    rintro ⟨x, hx, y, hy, hlt⟩
    rw [Option.mem_def] at hx hy
    obtain rfl := Option.some.inj (hx.symm.trans hy)
    exact lt_irrefl x hlt
  | first _ _ => cases hs
  | advances ht ht' hvalid hadvances =>
    obtain rfl := Option.some.inj (hs.symm.trans ht)
    exact ⟨_, ht', Or.inr hadvances.sequence, hadvances.issuedAt, hadvances.releases, hadvances.signerKeys⟩

/-- What an epoch makes of its deployments when an index was revoked under the snapshot `s` before. -/
structure KeptOut (s : StaticSiteReleaseRevocation) (index : ReleasedIndex)
    (load : StaticDeploymentTarget → Except AbstentionCode ReleasedIndex) (targets : List StaticDeploymentTarget)
    (run : StaticEpochRun) : Prop where
  /-- The index is not judged, under whatever policy. -/
  absent : ∀ other ∈ run.indexes,
    ¬ (other.target.releaseDigest = index.target.releaseDigest ∧ other.release = index.release)
  /-- A deployment whose release is listed, or whose site is taken down, is recorded as revoked. -/
  listed : ∀ target ∈ targets, (∃ item ∈ s.revokedReleases, item.releaseDigest = target.releaseDigest ∨
      item.siteDigest = target.siteDigest ∧ item.reasonCategory ∈ takedownReasons) →
    run.Records target .releaseRevoked
  /-- So is a deployment with the release of the index, when its documents authenticate. -/
  authenticated : ∀ target ∈ targets, target.releaseDigest = index.target.releaseDigest → ∀ other,
    load target = .ok other → other.release = index.release → run.Records target .releaseRevoked
  /-- When they do not, it is recorded as revoked or with their refusal. -/
  refused : ∀ target ∈ targets, target.releaseDigest = index.target.releaseDigest → ∀ code,
    load target = .error code → run.Records target .releaseRevoked ∨ run.Records target code

section Finality

variable {ed25519 : String → String → List UInt8 → Bool} {reported : List UInt8 → AbstentionCode} {e : Epoch}
  {verified : VerifiedRevocation} {releasePolicy : StaticSiteReleaseTrustPolicy} {target : StaticDeploymentTarget}
  {index : ReleasedIndex}

/-- The first check of a deployment. -/
lemma judgeTarget_of_listed (h : ∃ item ∈ verified.snapshot.revokedReleases, item.releaseDigest =
      target.releaseDigest ∨ item.siteDigest = target.siteDigest ∧ item.reasonCategory ∈ takedownReasons) :
    judgeTarget ed25519 reported (some verified) releasePolicy e target = .error .releaseRevoked := by
  have hrevoked : ∃ h ∈ some verified, h.releaseRevoked target.releaseDigest ∨ h.siteRevoked target.siteDigest := by
    obtain ⟨item, hitem, heq | ⟨heq, htakedown⟩⟩ := h
    · exact ⟨verified, rfl, Or.inl (List.any_eq_true.mpr ⟨item, hitem, decide_eq_true heq⟩)⟩
    · exact ⟨verified, rfl, Or.inr (List.any_eq_true.mpr ⟨item, hitem, by simp [heq, htakedown]⟩)⟩
  rw [judgeTarget, reject, if_pos hrevoked]
  rfl

/-- A deployment whose documents do not authenticate is refused with their code, or before. -/
lemma judgeTarget_of_refused {held : Option VerifiedRevocation} {code : AbstentionCode}
    (h : loadIndex ed25519 reported releasePolicy e target = .error code) :
    judgeTarget ed25519 reported held releasePolicy e target = .error .releaseRevoked ∨
      judgeTarget ed25519 reported held releasePolicy e target = .error code := by
  rw [judgeTarget, reject, h]
  split
  · exact Or.inl rfl
  · exact Or.inr rfl

/-- A deployment whose index is condemned is refused as revoked. -/
lemma judgeTarget_of_condemned {other : ReleasedIndex}
    (h : loadIndex ed25519 reported releasePolicy e target = .ok other) (hcondemned : Condemned verified.snapshot other) :
    judgeTarget ed25519 reported (some verified) releasePolicy e target = .error .releaseRevoked := by
  have hrevoked : ∃ h ∈ some verified, staticIndexRevoked h other releasePolicy = true :=
    ⟨verified, rfl, revoked_of_condemned hcondemned releasePolicy⟩
  rw [judgeTarget, reject, h]
  split
  · rfl
  · change (reject _ _ >>= _) = _
    rw [reject, if_pos hrevoked]
    rfl

/-- A judged index is the one that was loaded, of its deployment. -/
lemma loadIndex_of_judgeTarget {held : Option VerifiedRevocation}
    (h : judgeTarget ed25519 reported held releasePolicy e target = .ok index) :
    loadIndex ed25519 reported releasePolicy e target = .ok index := by
  simp only [judgeTarget, Except.bind_eq_ok, Except.reject_eq_ok, exists_const, pure, Except.pure,
    Except.ok.injEq] at h
  obtain ⟨-, other, hother, -, rfl⟩ := h
  exact hother

lemma target_of_loadIndex (h : loadIndex ed25519 reported releasePolicy e target = .ok index) :
    index.target = target := by
  rw [loadIndex] at h
  split at h
  · cases h
  · exact (ingestStaticIndex_eq_ok h).1

/-- The same release of the same digest is condemned with the index. -/
lemma Condemned.congr {s : StaticSiteReleaseRevocation} {other : ReleasedIndex} (h : Condemned s index)
    (hdigest : other.target.releaseDigest = index.target.releaseDigest) (hrelease : other.release = index.release) :
    Condemned s other := by
  rwa [Condemned, hdigest, hrelease]

/-- **What was condemned is kept out.** -/
lemma Judged.keptOut {manifest : ActiveAssignmentManifestV3} {run : StaticEpochRun} {s : StaticSiteReleaseRevocation}
    (h : Judged ed25519 reported e (some verified) releasePolicy manifest run)
    (hreleases : s.revokedReleases ⊆ verified.snapshot.revokedReleases)
    (hcondemned : Condemned verified.snapshot index) :
    KeptOut s index (loadIndex ed25519 reported releasePolicy e) (staticDeploymentTargets manifest) run where
  absent := by
    rintro other hother ⟨hdigest, hrelease⟩
    obtain ⟨target, -, hjudge⟩ := (h.indexes other).mp hother
    have hrefused := judgeTarget_of_condemned (loadIndex_of_judgeTarget hjudge) (hcondemned.congr hdigest hrelease)
    rw [hjudge] at hrefused
    cases hrefused
  listed := by
    rintro target htarget ⟨item, hitem, hlisted⟩
    exact (h.abstentions _).mpr
      ⟨target, htarget, _, judgeTarget_of_listed ⟨item, hreleases hitem, hlisted⟩, rfl⟩
  authenticated := by
    intro target htarget hdigest other hload hrelease
    rw [← target_of_loadIndex hload] at hdigest
    exact (h.abstentions _).mpr
      ⟨target, htarget, _, judgeTarget_of_condemned hload (hcondemned.congr hdigest hrelease), rfl⟩
  refused := by
    intro target htarget _ code hload
    have hcases : judgeTarget ed25519 reported (some verified) releasePolicy e target = .error .releaseRevoked ∨
        judgeTarget ed25519 reported (some verified) releasePolicy e target = .error code := judgeTarget_of_refused hload
    rcases hcases with hjudge | hjudge
    · exact Or.inl ((h.abstentions _).mpr ⟨target, htarget, _, hjudge, rfl⟩)
    · exact Or.inr ((h.abstentions _).mpr ⟨target, htarget, _, hjudge, rfl⟩)

end Finality

/-- **Revocation is final.** In every run of epochs the snapshot in the file only advances: its sequence increases
whenever the file changes, it is not issued earlier, and what it revokes grows. An index that was authenticated
under one of the policies with which the file was verified, and that was revoked under what the file said, is not
judged in any later epoch, under whatever policies: the epoch is refused, or abstains, or leaves it out and records
its deployment.

**Proof sketch.** The index is condemned by the snapshot, since no pinned public key has two names. Whatever a
later file says keeps the entries, so that it condemns the index too; and an epoch that judges its deployments
holds what the file says. -/
theorem revocation_is_final (ed25519 : String → String → List UInt8 → Bool) (reported : List UInt8 → AbstentionCode)
    (file : Option (List UInt8)) (before later : List Epoch) :
    let earlier := Machine.run (runEpoch ed25519 reported) file before
    let now := Machine.run (runEpoch ed25519 reported) file (before ++ later)
    Keeps earlier now ∧
      ∀ stored revocationPolicy policies policy bound index, earlier = some stored →
        verifyBoundStaticSiteReleaseRevocation ed25519 stored revocationPolicy policies = .ok bound →
        policy ∈ policies → index.AuthenticatedUnder policy → staticIndexRevoked bound.verified index policy = true →
        ∀ e run, (runEpoch ed25519 reported now e).2 = .ok run → run.abstainedCode = none →
          ∃ releasePolicy manifest, loadReleasePolicy e.config.releaseTrustPolicy = .ok releasePolicy ∧
            e.publication = .verified manifest ∧
            KeptOut bound.verified.snapshot index (loadIndex ed25519 reported releasePolicy e)
              (staticDeploymentTargets manifest) run := by
  intro earlier now
  have hinstalls : Installs earlier now := by
    have h : Installs earlier (Machine.run (runEpoch ed25519 reported) earlier later) := highWater_run earlier later
    rwa [← Machine.run_append] at h
  refine ⟨hinstalls.keeps, ?_⟩
  intro stored revocationPolicy policies policy bound index hstored hbound hpolicy hindex hrevoked e run hrun hnone
  obtain ⟨-, hsnapshot, -, halias, hpinned⟩ := verifyBound_eq_ok hbound
  have hcondemned := condemned_of_revoked hpolicy halias hpinned hindex hrevoked
  -- the epoch holds what the file says afterwards, which keeps what it said when the index was revoked
  have hafter : Installs (some stored) (runEpoch ed25519 reported now e).1 :=
    (hstored ▸ hinstalls).trans (installs_runEpoch now e)
  obtain ⟨held, releasePolicy, manifest, hjudged, hfile⟩ := judged_of_runEpoch hrun hnone
  obtain ⟨between, hbetween⟩ : ∃ between, now = some between := by
    rw [hstored] at hinstalls
    generalize now = other at hinstalls
    cases hinstalls with
    | same => exact ⟨stored, rfl⟩
    | advances => exact ⟨_, rfl⟩
  obtain ⟨stored', verified, hfile', rfl, hsnapshot'⟩ := hfile between hbetween
  rw [hfile'] at hafter
  obtain ⟨s', hs', -, -, hreleases, hkeys⟩ := hafter.keeps _ hsnapshot
  obtain rfl := Option.some.inj (hsnapshot'.symm.trans hs')
  exact ⟨releasePolicy, manifest, hjudged.loaded, hjudged.publication,
    hjudged.keptOut hreleases (hcondemned.mono hreleases hkeys)⟩

/-! ## A sample -/

namespace Sample

open Manifest (DeploymentAssignmentV3)
open Organic.Sample (replica repeated)

/-- The key that signs releases. -/
def releaseKey : StaticReleaseKey where
  keyID := "release"
  publicKeyHex := "8a88e3dd7409f195fd52db2d3cba5d72ca6709bf1d94121bf3748801b40f6f5c"
  validFromEpoch := 0
  validUntilEpoch := 1000000

/-- The policy of releases. -/
def releasePolicy : StaticSiteReleaseTrustPolicy := TrustPolicy.sealed ⟨"releases", [releaseKey], ""⟩

/-- The key that signs revocations. -/
def authorityKey : StaticReleaseKey where
  keyID := "authority"
  publicKeyHex := "8139770ea87d175f56a35466c34c7ecccb8d8a91b4ee37a25df60f5b8fc9b394"
  validFromEpoch := 0
  validUntilEpoch := 1000000

/-- The policy of revocations. -/
def revocationPolicy : StaticSiteReleaseRevocationTrustPolicy := TrustPolicy.sealed ⟨"revocations", [authorityKey], ""⟩

/-- A site of one file. -/
def site : Static.Manifest where
  fallback := none
  files := [⟨List.replicate 64 'c', 5, Static.htmlType, Static.indexPath⟩]
  handler := Static.handlerVersion
  schema := Static.manifestSchema
  schemaVersion := 1

/-- The digest of the site. -/
def siteDigest : String := storedDigest (Static.canonicalBytes site)

/-- The digest of the server. -/
def serverDigest : String := "sha256:" ++ repeated 64 'a'

/-- The release of the site. -/
def release : StaticSiteRelease where
  issuedAt := "1970-01-01T00:05:00Z"
  producerPolicyVersion := "static-producer-policy.v3"
  serverImplementationDigest := serverDigest
  signature := "7411e79daf201f2281b332383410da11208caeef435ad3da1ddf197536e3ab2224f2706192d8a22b11db0ada06abcd29" ++
    "3214640b8bd66993abbb9477e6808003"
  signerKeyID := "release"
  siteDigest := siteDigest

/-- The digest of the release. -/
def releaseDigest : String := storedDigest (StaticSiteRelease.model.bytes release)

/-- A snapshot that revokes the key. -/
def snapshot : StaticSiteReleaseRevocation where
  issuedAt := "1970-01-01T00:06:40Z"
  revokedReleases := []
  revokedSignerKeys := [⟨"release", releaseKey.publicKeyHex, .keyCompromise⟩]
  sequence := 1
  signature := "e7bc9ab093579966ccd1b343db174e6371a628eb7d342f8739c5ccfccb6d7958a7931c948a23cc4a4e391391e2ee71f4" ++
    "c88d4d2c334fab222dafb47b2f8ae00c"
  signerKeyID := "authority"

/-- The bytes of the snapshot. -/
def snapshotBytes : List UInt8 := StaticSiteReleaseRevocation.model.bytes snapshot

/-- The envelope of the snapshot, which names no releases. -/
def envelope : BoundRevocation := ⟨String.ofList (Organic.b64encode snapshotBytes), []⟩

/-- The bytes of the envelope. -/
def stored : List UInt8 := BoundRevocation.model.bytes envelope

/-- The envelope, verified. -/
def bound : VerifiedBoundRevocation :=
  ⟨⟨snapshot, storedDigest snapshotBytes, snapshotBytes, revocationPolicy.digestSha256⟩, stored⟩

/-- The one deployment, without its digest. -/
def draft : DeploymentAssignmentV3 where
  deploymentID := "app"
  routeHost := "app.apps.example"
  workload := .staticSite siteDigest releaseDigest serverDigest
  replicas := [replica]
  assignmentDigestSha256 := ""

/-- The one deployment. -/
def deployment : DeploymentAssignmentV3 := { draft with assignmentDigestSha256 := digest (document draft.members) }

/-- The manifest, without its digest. -/
def unsealed : ActiveAssignmentManifestV3 where
  network := .finney
  netuid := 24
  centralAuthorityFingerprintSha256 := repeated 64 '1'
  trustPolicyDigestSha256 := repeated 64 '2'
  finalizedHeight := 20
  finalizedBlockHash := repeated 64 '3'
  finalizedEpoch := 2
  sequence := 1
  previousManifestDigestSha256 := none
  issuedAtEpoch := 300
  expiresAtEpoch := 90000
  routeHostSuffix := "apps.example"
  probePort := 443
  deployments := [deployment]
  assignmentVectorDigestSha256 := digest (.arr [deployment.toJson])
  manifestDigestSha256 := ""

/-- The manifest. -/
def manifest : ActiveAssignmentManifestV3 :=
  { unsealed with manifestDigestSha256 := digest (document unsealed.members) }

/-- The target of the deployment. -/
def target : StaticDeploymentTarget where
  deploymentID := "app"
  routeHost := "app.apps.example"
  siteDigest := siteDigest
  releaseDigest := releaseDigest
  serverImplementationDigest := serverDigest
  endpoints := [⟨replica.endpointID, 1, 7, "5Miner", replica.minerServicePublicKey, replica.ticketDigest⟩]

/-- The index of the deployment. -/
def index : ReleasedIndex :=
  { verified site with
    target := target
    trustPolicyDigestSha256 := releasePolicy.digestSha256
    release := release }

/-- The configuration of a validator with these policies, to which this snapshot is offered. -/
def config (r : StaticSiteReleaseTrustPolicy) (p : StaticSiteReleaseRevocationTrustPolicy) (offered : List UInt8) :
    StaticSitesConfig where
  releaseTrustPolicy := .ok (TrustPolicy.model.bytes r)
  serverImplementationDigest := serverDigest
  revocationPolicy := some (some (TrustPolicy.model.bytes p))
  revocationPolicyDigest := some p.digestSha256
  revocationProofPolicies := []
  revocationSnapshot := some (some offered)
  revocationMaxAgeSeconds := 86400

/-- An epoch in which the documents of the deployment are there, or are not. -/
def epoch (fetched : Bool) : Epoch where
  config := config releasePolicy revocationPolicy stored
  network := .finney
  lockSafe := true
  installSafe := true
  installing := .completes
  publication := .verified manifest
  epochIndex := 1
  evaluationEpoch := 500
  late := fun _ => false
  documents := fun _ =>
    if fetched then (some (Static.canonicalBytes site), some (StaticSiteRelease.model.bytes release)) else (none, none)

/-- The signatures of the sample verify. -/
def verifies : String → String → List UInt8 → Bool := fun _ _ _ => true

/-- Every manifest of the sample is one. -/
def reported : List UInt8 → AbstentionCode := fun _ => .indexInvalid

/-! ### Its documents -/

/-- A key of a name and a point is valid in the first million seconds. -/
lemma key_valid {keyID publicKeyHex : String} (hname : Manifest.keyID keyID = true)
    (hpublic : decodesEd25519PublicKeyHex publicKeyHex = true) :
    (⟨keyID, publicKeyHex, 0, 1000000⟩ : StaticReleaseKey).Valid := by
  have hhex : hex64 publicKeyHex = true := by
    rw [decodesEd25519PublicKeyHex, Bool.and_eq_true] at hpublic
    exact hpublic.1
  have hfrom : Manifest.epoch 0 = true := by decide
  have huntil : Manifest.epoch 1000000 = true := by decide
  have hwindow : (0 : ℤ) < 1000000 := by decide
  exact ⟨hname, hhex, hfrom, huntil, hpublic, hwindow⟩

lemma releaseKey_valid : releaseKey.Valid := by
  refine key_valid ?_ ?_
  · rw [Manifest.keyID, String.toList_ofList]
    decide
  · rw [decodesEd25519PublicKeyHex, hex64, Protocol.lowercaseHex, signCleared, String.toList_ofList]
    decide

lemma authorityKey_valid : authorityKey.Valid := by
  refine key_valid ?_ ?_
  · rw [Manifest.keyID, String.toList_ofList]
    decide
  · rw [decodesEd25519PublicKeyHex, hex64, Protocol.lowercaseHex, signCleared, String.toList_ofList]
    decide

lemma sealed_valid {schema policyID : String} {key : StaticReleaseKey} (hpolicy : Manifest.keyID policyID)
    (hkey : key.Valid) : (TrustPolicy.sealed ⟨policyID, [key], ""⟩ : TrustPolicy schema).Valid := by
  have hlength : 1 ≤ maxReleaseKeys := by decide
  refine ⟨hpolicy, le_refl 1, hlength, ?_, hex64_digest _, List.nodup_singleton _, List.nodup_singleton _,
    TrustPolicy.digest_sealed ⟨policyID, [key], ""⟩⟩
  intro k hk
  rw [List.mem_singleton.mp hk]
  exact hkey

lemma releasePolicy_valid : releasePolicy.Valid := by
  refine sealed_valid ?_ releaseKey_valid
  rw [Manifest.keyID, String.toList_ofList]
  decide

lemma revocationPolicy_valid : revocationPolicy.Valid := by
  refine sealed_valid ?_ authorityKey_valid
  rw [Manifest.keyID, String.toList_ofList]
  decide

lemma siteDigest_valid : sha256Digest siteDigest = true := sha256Digest_storedDigest _

lemma releaseDigest_valid : sha256Digest releaseDigest = true := sha256Digest_storedDigest _

lemma serverDigest_valid : sha256Digest serverDigest = true := by
  rw [serverDigest, repeated]
  exact sha256Digest_replicate (by decide)

lemma release_valid : release.Valid := by
  refine ⟨?_, ?_, serverDigest_valid, ?_, ?_, siteDigest_valid⟩
  · rw [release, utcTimestamp, rfc3339nanoInstant, String.toList_ofList]
    decide
  · rw [release, policyVersion, String.toList_ofList]
    decide
  · rw [release, hexSignature, Protocol.lowercaseHex, String.toList_append, String.toList_ofList, String.toList_ofList]
    decide +kernel
  · rw [release, Manifest.keyID, String.toList_ofList]
    decide

lemma revokedKey_valid : (⟨"release", releaseKey.publicKeyHex, .keyCompromise⟩ : RevokedSignerKey).Valid :=
  ⟨releaseKey_valid.1, releaseKey_valid.2.1⟩

lemma snapshot_valid : snapshot.Valid := by
  refine ⟨?_, Nat.zero_le _, List.forall_mem_nil _, ?_, List.forall_mem_singleton.mpr revokedKey_valid, by decide, ?_,
    authorityKey_valid.1, .nil, .singleton _, List.nodup_singleton _⟩
  · rw [snapshot, utcTimestamp, rfc3339nanoInstant, String.toList_ofList]
    decide
  · rw [maxRevokedSignerKeys]
    decide
  · rw [snapshot, hexSignature, Protocol.lowercaseHex, String.toList_append, String.toList_ofList, String.toList_ofList]
    decide +kernel

lemma envelope_valid : envelope.Valid := ⟨Nat.zero_le _, nofun, .nil⟩

lemma digest_sealed (d : DeploymentAssignmentV3) : digest (document d.members) =
    digest (document { d with assignmentDigestSha256 := digest (document d.members) }.members) := rfl

lemma digest_manifest (m : ActiveAssignmentManifestV3) : digest (document m.members) =
    digest (document { m with manifestDigestSha256 := digest (document m.members) }.members) := rfl

lemma deployment_valid : deployment.Valid := by
  have hworkload : (Manifest.Workload.staticSite siteDigest releaseDigest serverDigest).Valid :=
    ⟨siteDigest_valid, releaseDigest_valid, serverDigest_valid⟩
  have hlength : 1 ≤ [replica].length ∧ [replica].length ≤ 8 := by decide
  refine ⟨by decide, by decide, hworkload, hlength.1, hlength.2, ?_, hex64_digest _, ⟨?_, ?_⟩,
    digest_sealed draft⟩
  · intro r hr
    rw [List.mem_singleton.mp hr]
    exact Organic.Sample.replica_valid
  · exact Sorting.eq_sortedSet_iff.mpr (List.pairwise_singleton _ _)
  · intro r hr
    rw [List.mem_singleton.mp hr]
    decide

lemma manifest_valid : manifest.Valid := by
  have hdigit : ∀ c ∈ ['1', '2', '3'], hex64 (repeated 64 c) = true := by decide
  have hhost : Organic.OrganicDeploymentAssignment.hostname "apps.example" = true := by decide
  have hheight : count 20 = true := by decide
  have hepoch : count 2 = true := by decide
  have hfirst : positiveCount 1 = true := by decide
  have hissued : count 300 = true := by decide
  have hexpires : positiveCount 90000 = true := by decide
  have hport : (1 : ℤ) ≤ 443 ∧ (443 : ℤ) ≤ 65535 := by decide
  have hlength : [deployment].length ≤ 4096 := by simp
  have hwindow : (300 : ℤ) < 90000 := by decide
  have hvector : digest (.arr [deployment.toJson]) =
      digest (.arr ([deployment].map DeploymentAssignmentV3.toJson)) := by rw [List.map_cons, List.map_nil]
  have hgenesis : (1 : ℤ) = 1 ↔ (none : Option String) = none := by simp
  refine ⟨List.mem_cons_self, hdigit _ (by decide), hdigit _ (by decide), hheight, hdigit _ (by decide), hepoch,
    hfirst, nofun, hissued, hexpires, hhost, hport, hlength, ?_, hex64_digest _, hex64_digest _, hwindow,
    hgenesis, ?_, ?_, List.nodup_singleton _, hvector, digest_manifest unsealed⟩
  · intro d hd
    rw [List.mem_singleton.mp hd]
    exact deployment_valid
  · exact Sorting.eq_sortedSet_iff.mpr (List.pairwise_singleton _ _)
  · intro d hd
    rw [List.mem_singleton.mp hd]
    have hroute : deployment.routeHost = deployment.deploymentID ++ "." ++ "apps.example" := by decide
    refine ⟨hroute, fun r hr => ?_⟩
    rw [List.mem_singleton.mp hr]
    decide

/-! ### Its bytes -/

lemma textCost_keyID {keyID : String} (h : Manifest.keyID keyID = true) : Json.textCost keyID.toList ≤ 770 := by
  rw [Manifest.keyID, Bool.and_eq_true, Bool.and_eq_true, Bool.and_eq_true, decide_eq_true_iff] at h
  exact textCost_le_of_length (k := 64) h.1.1.1

lemma cost_epoch {n : ℤ} (h : Manifest.epoch n = true) : (Json.num n).cost ≤ 20 := by
  rw [Manifest.epoch, count, Bool.and_eq_true, decide_eq_true_iff, decide_eq_true_iff, maxInt] at h
  exact cost_num (by omega)

/-- A valid key is bounded. -/
lemma cost_key {k : StaticReleaseKey} (h : k.Valid) : k.toJson.cost ≤ 2000 := by
  have hkeys : ∀ m ∈ k.members, Json.textCost m.1.toList ≤ 72 := by
    simp only [StaticReleaseKey.members, List.mem_cons, List.not_mem_nil, or_false, forall_eq_or_imp, forall_eq]
    and_intros <;> (rw [String.toList_ofList]; decide)
  have hdocument := cost_document_le hkeys
  have hid := textCost_keyID h.1
  have halgorithm : Json.textCost "ed25519".toList ≤ 20 := by
    rw [String.toList_ofList]
    decide
  have hpublic := textCost_hex64 h.2.1
  have hfrom := cost_epoch h.2.2.1
  have huntil := cost_epoch h.2.2.2.1
  simp only [StaticReleaseKey.members, List.length_cons, List.length_nil, List.map_cons, List.map_nil, List.sum_cons,
    List.sum_nil, text, Json.cost] at hdocument hfrom huntil
  rw [StaticReleaseKey.toJson]
  simp only [StaticReleaseKey.members, text]
  omega

/-- An array is bounded by its items. -/
lemma cost_arr_le {items : List Json} {k : ℕ} (h : ∀ j ∈ items, j.cost ≤ k) :
    (Json.arr items).cost ≤ 2 + items.length * (k + 1) := by
  have hsum : (items.map fun j => j.cost + 1).sum ≤ items.length * (k + 1) := by
    induction items with
    | nil => simp
    | cons j items ih =>
      rw [List.forall_mem_cons] at h
      have := ih h.2
      rw [List.map_cons, List.sum_cons, List.length_cons, Nat.add_mul, Nat.one_mul]
      omega
  rw [Json.cost, Json.costItems_eq_sum]
  omega

/-- A valid policy is bounded. -/
lemma length_policy_le {schema : String} (hschema : Json.textCost schema.toList ≤ 1000) {p : TrustPolicy schema}
    (h : p.Valid) : (TrustPolicy.model.bytes p).length ≤ maxRevocationPolicyBytes := by
  have hkeys : ∀ m ∈ p.members ++ [("digest_sha256", text p.digestSha256)], Json.textCost m.1.toList ≤ 72 := by
    simp only [TrustPolicy.members, List.cons_append, List.nil_append, List.mem_cons, List.not_mem_nil, or_false,
      forall_eq_or_imp, forall_eq]
    and_intros <;> (rw [String.toList_ofList]; decide)
  have hdocument := cost_document_le hkeys
  have hid := textCost_keyID h.1
  have hdigest := textCost_hex64 h.2.2.2.2.1
  have hone : (Json.num 1).cost ≤ 20 := cost_num (by decide)
  have harr : (Json.arr (p.trustedKeys.map StaticReleaseKey.toJson)).cost ≤ 33000 := by
    have hitems : ∀ j ∈ p.trustedKeys.map StaticReleaseKey.toJson, j.cost ≤ 2000 := by
      intro j hj
      obtain ⟨k, hk, rfl⟩ := List.mem_map.mp hj
      exact cost_key (h.2.2.2.1 k hk)
    have hlength := h.2.2.1
    rw [maxReleaseKeys] at hlength
    have := cost_arr_le hitems
    rw [List.length_map] at this
    omega
  have hbytes : (TrustPolicy.model.bytes p).length ≤ p.toJson.cost + 1 := TrustPolicy.model.length_bytes_le p
  rw [TrustPolicy.toJson] at hbytes
  rw [maxRevocationPolicyBytes]
  simp only [TrustPolicy.members, List.cons_append, List.nil_append, List.length_cons, List.length_nil, List.map_cons,
    List.map_nil, List.sum_cons, List.sum_nil, text, Json.cost] at hdocument hone harr hbytes
  omega

/-- A valid release is bounded. -/
lemma length_release_le {r : StaticSiteRelease} (h : r.Valid) :
    (StaticSiteRelease.model.bytes r).length ≤ maxReleaseBytes := by
  have hkeys : ∀ m ∈ r.members ++ [("signature", text r.signature)], Json.textCost m.1.toList ≤ 72 := by
    simp only [StaticSiteRelease.members, List.cons_append, List.nil_append, List.mem_cons, List.not_mem_nil, or_false,
      forall_eq_or_imp, forall_eq]
    and_intros <;> (rw [String.toList_ofList]; decide)
  have hdocument := cost_document_le hkeys
  have hissued := textCost_utcTimestamp h.1
  have hpolicy : Json.textCost r.producerPolicyVersion.toList ≤ 770 := by
    have hversion := h.2.1
    rw [policyVersion, Bool.and_eq_true, Bool.and_eq_true, Bool.and_eq_true, decide_eq_true_iff] at hversion
    exact textCost_le_of_length (k := 64) hversion.1.1.1
  have hschema : Json.textCost "miss.computer/misscomputer-subnet/static-site-release".toList ≤ 200 := by
    rw [String.toList_ofList]
    decide
  have hserver := textCost_sha256Digest h.2.2.1
  have hsignature := textCost_hexSignature h.2.2.2.1
  have hsigner := textCost_keyID h.2.2.2.2.1
  have hsite := textCost_sha256Digest h.2.2.2.2.2
  have hone : (Json.num 1).cost ≤ 20 := cost_num (by decide)
  have hbytes : (StaticSiteRelease.model.bytes r).length ≤ r.toJson.cost + 1 :=
    StaticSiteRelease.model.length_bytes_le r
  rw [StaticSiteRelease.toJson] at hbytes
  rw [maxReleaseBytes]
  simp only [StaticSiteRelease.members, List.cons_append, List.nil_append, List.length_cons, List.length_nil,
    List.map_cons, List.map_nil, List.sum_cons, List.sum_nil, text, Json.cost] at hdocument hone hbytes
  omega

/-- A revoked key is bounded. -/
lemma cost_revokedKey {k : RevokedSignerKey} (h : k.Valid) : k.toJson.cost ≤ 2000 := by
  have hkeys : ∀ m ∈ k.members, Json.textCost m.1.toList ≤ 72 := by
    simp only [RevokedSignerKey.members, List.mem_cons, List.not_mem_nil, or_false, forall_eq_or_imp, forall_eq]
    and_intros <;> (rw [String.toList_ofList]; decide)
  have hdocument := cost_document_le hkeys
  have hid := textCost_keyID h.1
  have hpublic := textCost_hex64 h.2
  have hreason : Json.textCost k.reasonCategory.text.toList ≤ 200 := by
    cases k.reasonCategory <;> (rw [SignerKeyReason.text, String.toList_ofList]; decide)
  simp only [RevokedSignerKey.members, List.length_cons, List.length_nil, List.map_cons, List.map_nil, List.sum_cons,
    List.sum_nil, text, Json.cost] at hdocument
  rw [RevokedSignerKey.toJson]
  simp only [RevokedSignerKey.members, text]
  omega

/-- A valid snapshot of one key is bounded. -/
lemma length_snapshot_le {s : StaticSiteReleaseRevocation} {key : RevokedSignerKey} (h : s.Valid)
    (hreleases : s.revokedReleases = []) (hrevoked : s.revokedSignerKeys = [key]) :
    (StaticSiteReleaseRevocation.model.bytes s).length ≤ 20000 := by
  have hkeys : ∀ m ∈ s.members ++ [("signature", text s.signature)], Json.textCost m.1.toList ≤ 72 := by
    simp only [StaticSiteReleaseRevocation.members, List.cons_append, List.nil_append, List.mem_cons,
      List.not_mem_nil, or_false, forall_eq_or_imp, forall_eq]
    and_intros <;> (rw [String.toList_ofList]; decide)
  have hdocument := cost_document_le hkeys
  have hissued := textCost_utcTimestamp h.1
  have hsignature := textCost_hexSignature h.2.2.2.2.2.2.1
  have hsigner := textCost_keyID h.2.2.2.2.2.2.2.1
  have hsequence : (Json.num s.sequence).cost ≤ 20 := by
    have := h.2.2.2.2.2.1
    rw [maxRevocationSequence] at this
    exact cost_num (by omega)
  have hschema : Json.textCost revocationSchema.toList ≤ 200 := by
    rw [revocationSchema, String.toList_ofList]
    decide
  have hone : (Json.num 1).cost ≤ 20 := cost_num (by decide)
  have harr : (Json.arr (s.revokedSignerKeys.map RevokedSignerKey.toJson)).cost ≤ 2 + 1 * (2000 + 1) := by
    rw [hrevoked, List.map_singleton]
    refine cost_arr_le ?_
    rw [List.forall_mem_singleton]
    exact cost_revokedKey (h.2.2.2.2.1 key (hrevoked ▸ List.mem_singleton.mpr rfl))
  have hbytes : (StaticSiteReleaseRevocation.model.bytes s).length ≤ s.toJson.cost + 1 :=
    StaticSiteReleaseRevocation.model.length_bytes_le s
  rw [StaticSiteReleaseRevocation.toJson] at hbytes
  simp only [StaticSiteReleaseRevocation.members, hreleases, List.cons_append, List.nil_append, List.length_cons,
    List.length_nil, List.map_cons, List.map_nil, List.sum_cons, List.sum_nil, text, Json.cost, Json.costItems]
    at hdocument hsequence hone harr hbytes
  omega

lemma length_snapshotBytes_le : snapshotBytes.length ≤ 20000 := length_snapshot_le snapshot_valid rfl rfl

/-- An envelope without proofs is bounded by its snapshot. -/
lemma length_envelope_le {snapshotB64 : String} (h : snapshotB64.toList.length ≤ 80000) :
    (BoundRevocation.model.bytes ⟨snapshotB64, []⟩).length ≤ maxBoundRevocationBytes := by
  have hkeys : ∀ m ∈ BoundRevocation.members ⟨snapshotB64, []⟩, Json.textCost m.1.toList ≤ 72 := by
    simp only [BoundRevocation.members, List.mem_cons, List.not_mem_nil, or_false, forall_eq_or_imp, forall_eq]
    and_intros <;> (rw [String.toList_ofList]; decide)
  have hdocument := cost_document_le hkeys
  have hsnapshot := textCost_le_of_length h
  have hschema : Json.textCost boundRevocationSchema.toList ≤ 200 := by
    rw [boundRevocationSchema, String.toList_ofList]
    decide
  have hone : (Json.num 1).cost ≤ 20 := cost_num (by decide)
  have hproofs : (Json.arr []).cost ≤ 2 := by decide
  have hbytes : (BoundRevocation.model.bytes ⟨snapshotB64, []⟩).length ≤
      (BoundRevocation.toJson ⟨snapshotB64, []⟩).cost + 1 := BoundRevocation.model.length_bytes_le _
  rw [BoundRevocation.toJson] at hbytes
  rw [maxBoundRevocationBytes]
  simp only [BoundRevocation.members, List.length_cons, List.length_nil, List.map_cons, List.map_nil, List.sum_cons,
    List.sum_nil, text, Json.cost] at hdocument hone hproofs hbytes
  omega

lemma length_stored_le : stored.length ≤ maxBoundRevocationBytes := by
  refine length_envelope_le ?_
  have hlength := length_b64encode_le snapshotBytes
  have hsnapshot := length_snapshotBytes_le
  rw [String.toList_ofList]
  omega

/-! ### Its epochs -/

section Opening

variable {r : StaticSiteReleaseTrustPolicy} {p : StaticSiteReleaseRevocationTrustPolicy} {s : StaticSiteReleaseRevocation}

lemma load_policy (h : r.Valid) : loadReleasePolicy (.ok (TrustPolicy.model.bytes r)) = .ok r := by
  have hlength : (TrustPolicy.model.bytes r).length ≤ 256 * 1024 :=
    (length_policy_le (by decide) h).trans (by rw [maxRevocationPolicyBytes]; omega)
  have hparse : parseStaticSiteReleaseTrustPolicy (TrustPolicy.model.bytes r) = .ok r :=
    TrustPolicy.model.parse_eq_ok_iff.mpr ⟨h, rfl, hlength⟩
  simp only [loadReleasePolicy, Except.bind_eq_ok]
  refine ⟨_, rfl, ?_⟩
  rw [hparse]

lemma parse_policy (h : p.Valid) (hvalidated : validatedReleaseProofPolicies [r] = .ok ())
    (hdedicated : ¬ ∃ item ∈ p.trustedKeys, item.publicKeyHex ∈ (pinnedKeys [r]).map StaticReleaseKey.publicKeyHex) :
    parseStaticSiteReleaseRevocationTrustPolicy (TrustPolicy.model.bytes p) p.digestSha256 [r] = .ok p := by
  have hlength := length_policy_le (by decide) h
  have hparse := TrustPolicy.model.parse_eq_ok_iff.mpr ⟨h, rfl, hlength⟩
  have hpinned : parsePinnedPolicy (TrustPolicy.model.bytes p) p.digestSha256 = .ok p := by
    rw [parsePinnedPolicy, hparse]
    simp only [Except.bind_eq_ok, Except.reject_eq_ok, exists_const, ne_eq, not_true_eq_false, not_false_eq_true,
      true_and]
    rfl
  simp only [parseStaticSiteReleaseRevocationTrustPolicy, Except.bind_eq_ok, Except.reject_eq_ok, exists_const]
  exact ⟨p, hpinned, (), hvalidated, hdedicated, rfl⟩

/-- A snapshot that names no releases is verified from the bytes of its envelope. -/
lemma verify_envelope {ed25519 : String → String → List UInt8 → Bool} (hs : s.Valid) (hempty : s.revokedReleases = [])
    (hlength : (StaticSiteReleaseRevocation.model.bytes s).length ≤ 20000)
    (hvalidated : validatedReleaseProofPolicies [r] = .ok ()) (hsigned : verifySnapshot ed25519 s p = .ok ())
    (hkeys : ∀ entry ∈ s.revokedSignerKeys, (entry.keyID, entry.publicKeyHex) ∈
      (pinnedKeys [r]).map fun key => (key.keyID, key.publicKeyHex)) :
    let snapshotBytes := StaticSiteReleaseRevocation.model.bytes s
    let envelopeBytes := BoundRevocation.model.bytes ⟨String.ofList (Organic.b64encode snapshotBytes), []⟩
    verifyBoundStaticSiteReleaseRevocation ed25519 envelopeBytes p [r] =
      .ok ⟨⟨s, storedDigest snapshotBytes, snapshotBytes, p.digestSha256⟩, envelopeBytes⟩ := by
  intro snapshotBytes envelopeBytes
  have hne : snapshotBytes ≠ [] := List.append_ne_nil_of_right_ne_nil _ (List.cons_ne_nil _ _)
  have hmaximum : snapshotBytes.length ≤ maxRevocationSnapshotBytes := hlength.trans (by decide)
  have henvelope : readEnvelope envelopeBytes = .ok ⟨String.ofList (Organic.b64encode snapshotBytes), []⟩ := by
    refine readEnvelope_eq_ok.mpr (BoundRevocation.model.parse_eq_ok_iff.mpr
      ⟨⟨Nat.zero_le _, nofun, .nil⟩, rfl, length_envelope_le ?_⟩)
    rw [String.toList_ofList]
    exact (length_b64encode_le _).trans (Nat.mul_le_mul_left 4 hlength)
  have hverified : verifyStaticSiteReleaseRevocation ed25519 snapshotBytes p =
      .ok ⟨s, storedDigest snapshotBytes, snapshotBytes, p.digestSha256⟩ :=
    verifyStaticSiteReleaseRevocation_eq_ok.mpr
      ⟨s, StaticSiteReleaseRevocation.model.parse_eq_ok_iff.mpr ⟨hs, rfl, hmaximum⟩, hsigned, rfl⟩
  simp only [verifyBoundStaticSiteReleaseRevocation, Except.bind_eq_ok, Except.reject_eq_ok, exists_const]
  refine ⟨(), hvalidated, _, henvelope, snapshotBytes, decoded_b64encode hne hmaximum, _, hverified, ?_, (), ?_, ?_, rfl⟩
  · rw [hempty]
    exact fun hnot => hnot rfl
  · rw [hempty]
    rfl
  · rintro ⟨entry, hentry, hnot⟩
    exact hnot (hkeys entry hentry)

/-- An epoch of the sample is opened. -/
lemma open_epoch {ed25519 : String → String → List UInt8 → Bool} {e : Epoch} {offered : List UInt8}
    {file : Option (List UInt8)} {held : Option VerifiedRevocation} (hconfig : e.config = config r p offered)
    (hr : r.Valid) (hp : p.Valid) (hvalidated : validatedReleaseProofPolicies [r] = .ok ())
    (hdedicated : ¬ ∃ item ∈ p.trustedKeys, item.publicKeyHex ∈ (pinnedKeys [r]).map StaticReleaseKey.publicKeyHex)
    (hread : readDocument file e.lockSafe = .ok file) (hheld : verifyStored ed25519 file p [r] = .ok held) :
    openEpoch ed25519 file e = .ok (r, some ⟨p, [r], held⟩) := by
  have hoptions : checkRevocationOptions e.config = .ok () := by
    have hdigest : hex64 p.digestSha256 = true := hp.2.2.2.2.1
    have hage : (300 : ℤ) ≤ 86400 ∧ (86400 : ℤ) ≤ maxMaxAgeSeconds := by decide
    have hproofs : ¬ maxReleaseProofPolicies < 0 + 1 := by decide
    simp only [checkRevocationOptions, hconfig, config, Except.bind_eq_ok, Except.reject_eq_ok, exists_const]
    refine ⟨by simp, by simp, hproofs, ?_, by simpa using hage⟩
    rintro ⟨digest, hmem, hnot⟩
    obtain rfl := Option.some.inj hmem
    exact hnot hdigest
  have hpolicies : [Except.ok (TrustPolicy.model.bytes r)].mapM loadReleasePolicy = .ok [r] :=
    mapM_eq_ok_iff.mpr (.cons (load_policy hr) .nil)
  have hrendered : loadUnpinnedFile (some (TrustPolicy.model.bytes p)) "static_revocation_policy_unavailable"
      maxRevocationPolicyBytes = .ok (TrustPolicy.model.bytes p) := by
    have hlength := length_policy_le (by decide) hp
    simp only [loadUnpinnedFile, Except.bind_eq_ok, Except.reject_eq_ok, exists_const, not_lt]
    exact ⟨hlength, rfl⟩
  have hlock : lockPolicy ed25519 file (config r p offered) (some (TrustPolicy.model.bytes p)) p.digestSha256 =
      .ok ⟨p, [r], held⟩ := by
    simp only [lockPolicy, Except.bind_eq_ok]
    refine ⟨[r], hpolicies, _, hrendered, ?_⟩
    rw [parse_policy hp hvalidated hdedicated]
    simp only [Except.bind_eq_ok]
    exact ⟨held, hheld, rfl⟩
  have hlocked : lockRevocation ed25519 file e = .ok (some ⟨p, [r], held⟩) := by
    rw [lockRevocation, Except.bind_eq_ok, hconfig]
    refine ⟨file, hread, ?_⟩
    change (lockPolicy ed25519 file (config r p offered) (some (TrustPolicy.model.bytes p)) p.digestSha256 >>=
      fun state => pure (some state)) = _
    rw [hlock]
    rfl
  simp only [openEpoch, Except.bind_eq_ok, hlocked]
  refine ⟨(), hoptions, r, ?_, _, rfl, rfl⟩
  rw [hconfig]
  exact load_policy hr

end Opening

section Gate

variable {ed25519 : String → String → List UInt8 → Bool} {state : StaticRevocationState} {e : Epoch}
  {offered : List UInt8} {envelope : VerifiedBoundRevocation} {file : Option (List UInt8)}
  {held : Option VerifiedRevocation} {installs : Bool}

/-- The gate of the sample: a fresh snapshot is offered and installed, or is held already. -/
lemma gate_open (hsnapshot : e.config.revocationSnapshot = some (some offered)) (hinstalling : e.installing = .completes)
    (hlength : offered.length ≤ maxBoundRevocationBytes)
    (hverified : verifyBoundStaticSiteReleaseRevocation ed25519 offered state.policy state.releasePolicies = .ok envelope)
    (hfresh : ∀ maxAge, 300 ≤ maxAge → revocationFreshness envelope.verified e.evaluationEpoch maxAge = none)
    (hage : 300 ≤ e.config.revocationMaxAgeSeconds)
    (hcompare : compareStored ed25519 file state envelope e = .ok (held, installs))
    (hheld : installs = false → file = some envelope.stored ∧ held = some envelope.verified) :
    gate ed25519 file (some state) e =
      (some envelope.stored, .ok (none, some { state with held := some envelope.verified })) := by
  have hoffer : readOffer ed25519 state (some offered) = .ok envelope := by
    simp only [readOffer, Except.bind_eq_ok, Except.mapError_eq_ok, loadUnpinnedFile, Except.reject_eq_ok, exists_const,
      not_lt]
    exact ⟨offered, ⟨hlength, rfl⟩, hverified⟩
  have hfuture := hfresh maxMaxAgeSeconds (by decide)
  have hinstall : installRevocationHighWater ed25519 file state envelope e =
      (some envelope.stored, .ok { state with held := some envelope.verified }) := by
    rw [installRevocationHighWater, hcompare]
    cases installs with
    | false =>
      obtain ⟨rfl, rfl⟩ := hheld rfl
      rfl
    | true => rw [hinstalling]
  have hgate : revocationGate ed25519 file state e =
      (some envelope.stored, .ok (none, { state with held := some envelope.verified })) := by
    simp only [revocationGate, hsnapshot, offerSnapshot, hoffer, hfuture, reduceCtorEq, if_false, hinstall, Except.map,
      judgeHeld, hfresh _ hage, Option.map_none]
  rw [gate, hgate]
  rfl

end Gate

/-- The state of the sample, with what is held. -/
def state (held : Option VerifiedRevocation) : StaticRevocationState := ⟨revocationPolicy, [releasePolicy], held⟩

/-- A policy of one key has no alias. -/
lemma validated_of_single {r : StaticSiteReleaseTrustPolicy} {key : StaticReleaseKey} (h : r.trustedKeys = [key]) :
    validatedReleaseProofPolicies [r] = .ok () := by
  have hcount : 1 ≤ [r].length ∧ [r].length ≤ maxReleaseProofPolicies := by
    rw [List.length_singleton, maxReleaseProofPolicies, maxRevokedReleases, maxRevokedSignerKeys]
    omega
  have hkeys : pinnedKeys [r] = [key] := by
    rw [pinnedKeys, List.flatMap_singleton, h]
  simp only [validatedReleaseProofPolicies, hkeys, Except.bind_eq_ok, Except.reject_eq_ok, exists_const, not_not]
  refine ⟨hcount, ([(key.keyID, key)], [(key.publicKeyHex, key.keyID)]), ?_, rfl⟩
  rw [List.foldlM_cons, Except.bind_eq_ok]
  refine ⟨_, ?_, rfl⟩
  simp only [checkAlias, Except.bind_eq_ok, Except.reject_eq_ok, exists_const]
  exact ⟨by simp, rfl⟩

lemma validated : validatedReleaseProofPolicies [releasePolicy] = .ok () := validated_of_single rfl

lemma dedicated : ¬ ∃ item ∈ revocationPolicy.trustedKeys,
    item.publicKeyHex ∈ (pinnedKeys [releasePolicy]).map StaticReleaseKey.publicKeyHex := by
  change ¬ ∃ item ∈ [authorityKey], item.publicKeyHex ∈ [releaseKey].map StaticReleaseKey.publicKeyHex
  decide

/-- A snapshot is signed by the key of its name. -/
lemma signed_of_single {ed25519 : String → String → List UInt8 → Bool} {p : StaticSiteReleaseRevocationTrustPolicy}
    {s : StaticSiteReleaseRevocation} {key : StaticReleaseKey} (hkeys : p.trustedKeys = [key])
    (hname : key.keyID = s.signerKeyID) (hcovers : key.Covers s.issuedAt) (haccepts : ∀ a b c, ed25519 a b c = true) :
    verifySnapshot ed25519 s p = .ok () := by
  have hkey : p.key s.signerKeyID = some key := by
    rw [TrustPolicy.key, hkeys]
    simp [hname]
  simp only [verifySnapshot, hkey, Except.bind_eq_ok, Except.reject_eq_ok, exists_const, not_not, haccepts]
  exact ⟨hcovers, by decide⟩

lemma signed : verifySnapshot verifies snapshot revocationPolicy = .ok () := by
  have hcovers : authorityKey.Covers "1970-01-01T00:06:40Z" := by decide
  exact @signed_of_single verifies revocationPolicy snapshot authorityKey rfl rfl hcovers fun _ _ _ => rfl

/-- The keys of a snapshot of one pinned key. -/
lemma pinned_of_single {r : StaticSiteReleaseTrustPolicy} {key : StaticReleaseKey} {entry : RevokedSignerKey}
    (h : r.trustedKeys = [key]) (hname : entry.keyID = key.keyID) (hpublic : entry.publicKeyHex = key.publicKeyHex) :
    ∀ other ∈ [entry], (other.keyID, other.publicKeyHex) ∈
      (pinnedKeys [r]).map fun key => (key.keyID, key.publicKeyHex) := by
  intro other hother
  rw [List.mem_singleton.mp hother, pinnedKeys, List.flatMap_singleton, h, hname, hpublic]
  exact List.mem_singleton.mpr rfl

lemma pinned : ∀ entry ∈ snapshot.revokedSignerKeys, (entry.keyID, entry.publicKeyHex) ∈
    (pinnedKeys [releasePolicy]).map fun key => (key.keyID, key.publicKeyHex) :=
  @pinned_of_single releasePolicy releaseKey ⟨"release", releaseKey.publicKeyHex, .keyCompromise⟩ rfl rfl rfl

lemma verify_stored : verifyBoundStaticSiteReleaseRevocation verifies stored revocationPolicy [releasePolicy] =
    .ok bound :=
  @verify_envelope releasePolicy revocationPolicy snapshot verifies snapshot_valid rfl length_snapshotBytes_le validated
    signed pinned

lemma fresh (maxAge : ℤ) (h : 300 ≤ maxAge) : revocationFreshness bound.verified 500 maxAge = none := by
  have hissued : timestampEpochSeconds bound.verified.snapshot.issuedAt = some 400 := by
    change timestampEpochSeconds "1970-01-01T00:06:40Z" = _
    decide
  rw [revocationFreshness, hissued, Option.bind_some, maxFutureSkewSeconds, if_neg (by decide), if_neg (by omega)]

lemma read_stored : readDocument (some stored) true = .ok (some stored) := by
  have hne : stored ≠ [] := List.append_ne_nil_of_right_ne_nil _ (List.cons_ne_nil _ _)
  simp only [readDocument, Except.bind_eq_ok, Except.reject_eq_ok, exists_const, not_or]
  refine ⟨⟨by decide, ?_⟩, rfl⟩
  rintro ⟨rendered, hmem, h⟩
  obtain rfl := Option.some.inj hmem
  exact h.elim hne (not_lt.mpr length_stored_le)

lemma held_stored : verifyStored verifies (some stored) revocationPolicy [releasePolicy] = .ok (some bound.verified) := by
  rw [verifyStored, verify_stored]

/-! ### Its index -/

lemma site_holds : Static.Holds (Static.canonicalBytes site) site := by
  have hrules : Static.SiteRules site := (Static.index_validate_ok site).mp (by decide)
  have hlength : (Static.canonicalBytes site).length ≤ Static.maxManifestBytes := by decide +kernel
  exact ⟨rfl, hlength, hrules⟩

section Ingestion

variable {ed25519 : String → String → List UInt8 → Bool} {reported : List UInt8 → AbstentionCode}
  {r : StaticSiteReleaseTrustPolicy} {key : StaticReleaseKey} {m : Static.Manifest} {signed : StaticSiteRelease}
  {t : StaticDeploymentTarget} {pinned : String}

/-- Documents that are what the deployment names are ingested. -/
lemma ingest_of_valid (hm : Static.Holds (Static.canonicalBytes m) m) (hsigned : signed.Valid)
    (hsite : storedDigest (Static.canonicalBytes m) = t.siteDigest)
    (hrelease : storedDigest (StaticSiteRelease.model.bytes signed) = t.releaseDigest)
    (hbinding : signed.siteDigest = t.siteDigest) (hverify : verifyRelease ed25519 signed r = none)
    (hproducer : signed.producerPolicyVersion ∈ implementedProducerPolicyVersions)
    (hserver : signed.serverImplementationDigest = t.serverImplementationDigest ∧
      t.serverImplementationDigest = pinned) :
    ingestStaticIndex ed25519 reported t (some (Static.canonicalBytes m)) (some (StaticSiteRelease.model.bytes signed))
        r pinned =
      .ok { verified m with target := t, trustPolicyDigestSha256 := r.digestSha256, release := signed } := by
  have hparse : (Static.canonicalBytes m).length ≤ Static.maxManifestBytes ∧
      parseModel validate (Static.canonicalBytes m) = .ok m := by
    refine (Static.parseModel_ok (P := fun _ => True) fun m => ?_).mpr ⟨hm, trivial⟩
    rw [and_true, Static.index_validate_ok]
  have hread : readManifest reported (Static.canonicalBytes m) = .ok m := by
    rw [readManifest, hparse.2]
  simp only [ingestStaticIndex, ingestDocuments, Except.bind_eq_ok, Except.reject_eq_ok, exists_const,
    acceptRelease_eq_ok, not_lt, not_not]
  exact ⟨hparse.1, hsite, hrelease, m, hread, signed, readRelease_eq_ok.mpr ⟨hsigned, rfl, length_release_le hsigned⟩,
    hbinding, hverify, hproducer, hserver, rfl⟩

/-- A release is signed by the key of its name. -/
lemma release_signed_of_single (hkeys : r.trustedKeys = [key]) (hname : key.keyID = signed.signerKeyID)
    (hcovers : key.Covers signed.issuedAt) (haccepts : ∀ a b c, ed25519 a b c = true) :
    verifyRelease ed25519 signed r = none := by
  have hkey : r.key signed.signerKeyID = some key := by
    rw [TrustPolicy.key, hkeys]
    simp [hname]
  simp [verifyRelease, hkey, hcovers, haccepts]

/-- A deployment without documents is unavailable, whoever signed its release. -/
lemma judge_unavailable {held : VerifiedRevocation} {e : Epoch} (hempty : held.snapshot.revokedReleases = [])
    (hlate : e.late t = false) (hdocuments : e.documents t = (none, none)) :
    judgeTarget ed25519 reported (some held) r e t = .error .indexUnavailable := by
  have hlisted : ¬ ∃ h ∈ some held, h.releaseRevoked t.releaseDigest ∨ h.siteRevoked t.siteDigest := by
    rintro ⟨h, hmem, hrevoked⟩
    obtain rfl := Option.some.inj hmem
    simp [VerifiedRevocation.releaseRevoked, VerifiedRevocation.siteRevoked, hempty] at hrevoked
  rw [judgeTarget, reject, if_neg hlisted]
  change (loadIndex ed25519 reported r e t >>= _) = _
  rw [loadIndex, hlate, hdocuments]
  rfl

end Ingestion

lemma targets_manifest : staticDeploymentTargets manifest = [target] := rfl

lemma index_loaded (reported : List UInt8 → AbstentionCode) :
    loadIndex verifies reported releasePolicy (epoch true) target = .ok index := by
  have hcovers : releaseKey.Covers "1970-01-01T00:05:00Z" := by decide
  have hverify : verifyRelease verifies release releasePolicy = none :=
    @release_signed_of_single verifies releasePolicy releaseKey release rfl rfl hcovers fun _ _ _ => rfl
  exact @ingest_of_valid verifies reported releasePolicy site release target serverDigest site_holds release_valid rfl
    rfl rfl hverify (List.mem_singleton.mpr rfl) ⟨rfl, rfl⟩

lemma index_revoked : staticIndexRevoked bound.verified index releasePolicy = true := by
  have hkey : releasePolicy.key index.release.signerKeyID = some releaseKey := by
    change ([releaseKey].find? fun item => item.keyID = "release") = some releaseKey
    decide
  have hrevoked : bound.verified.signerRevoked index.release.signerKeyID releaseKey.publicKeyHex = true := by
    change ([(⟨"release", releaseKey.publicKeyHex, .keyCompromise⟩ : RevokedSignerKey)].any fun item =>
      item.keyID = "release" || item.publicKeyHex = releaseKey.publicKeyHex) = true
    decide
  rw [staticIndexRevoked, hkey]
  dsimp only
  split
  · rfl
  · split
    · rfl
    · exact hrevoked

/-- The gate of the first epoch installs the snapshot. -/
lemma gate_first : gate verifies none (some (state none)) (epoch true) =
    (some stored, .ok (none, some (state (some bound.verified)))) := by
  refine @gate_open verifies (state none) (epoch true) stored bound none none true rfl rfl length_stored_le verify_stored
    fresh (by decide) ?_ nofun
  simp only [compareStored, Except.bind_eq_ok, Except.mapError_eq_ok]
  exact ⟨none, rfl, none, rfl, true, rfl, rfl⟩

/-- The gate of the second finds it installed. -/
lemma gate_second : gate verifies (some stored) (some (state (some bound.verified))) (epoch false) =
    (some stored, .ok (none, some (state (some bound.verified)))) := by
  have hadvance : advanceStaticSiteReleaseRevocation (some bound.verified) bound.verified = .ok false := by
    rw [advanceStaticSiteReleaseRevocation, advanceHeld, if_pos rfl, if_pos rfl]
  refine @gate_open verifies (state (some bound.verified)) (epoch false) stored bound (some stored)
    (some bound.verified) false rfl rfl length_stored_le verify_stored fresh (by decide) ?_ fun _ => ⟨rfl, rfl⟩
  simp only [compareStored, Except.bind_eq_ok, Except.mapError_eq_ok]
  exact ⟨some stored, read_stored, some bound.verified, held_stored, false, hadvance, rfl⟩

lemma open_first : openEpoch verifies none (epoch true) = .ok (releasePolicy, some (state none)) :=
  @open_epoch releasePolicy revocationPolicy verifies (epoch true) stored none none rfl releasePolicy_valid
    revocationPolicy_valid validated dedicated rfl rfl

lemma open_second : openEpoch verifies (some stored) (epoch false) =
    .ok (releasePolicy, some (state (some bound.verified))) :=
  @open_epoch releasePolicy revocationPolicy verifies (epoch false) stored (some stored) (some bound.verified) rfl
    releasePolicy_valid revocationPolicy_valid validated dedicated read_stored held_stored

section Run

variable {ed25519 : String → String → List UInt8 → Bool} {reported : List UInt8 → AbstentionCode} {e : Epoch}
  {r : StaticSiteReleaseTrustPolicy} {m : ActiveAssignmentManifestV3} {t : StaticDeploymentTarget}
  {file file' : Option (List UInt8)}

/-- An epoch that opens, whose manifest is verified and whose gate is open judges its deployments. -/
lemma run_of_open {before after : Option StaticRevocationState} (hopen : openEpoch ed25519 file e = .ok (r, before))
    (hpublication : e.publication = .verified m)
    (hgate : gate ed25519 file before e = (file', .ok (none, after))) :
    runEpoch ed25519 reported file e = (file', .ok (loadIndexes ed25519 reported after r e m)) := by
  rw [runEpoch, hopen]
  dsimp only
  rw [loadStaticEpoch, hpublication]
  dsimp only
  rw [hgate]
  rfl

/-- An epoch of one deployment that is refused. -/
lemma load_of_single {after : StaticRevocationState} {code : AbstentionCode}
    (htargets : staticDeploymentTargets m = [t])
    (hjudge : judgeTarget ed25519 reported after.held r e t = .error code) :
    loadIndexes ed25519 reported (some after) r e m =
      ⟨none, [], [⟨t.deploymentID, t.siteDigest, code⟩], some after⟩ := by
  have hrotated : rotated [t] e.epochIndex = [t] := by
    rw [rotated, List.length_singleton, Nat.mod_one, List.drop_zero, List.take_zero, List.append_nil]
  rw [loadIndexes, htargets, hrotated, List.foldl_cons, List.foldl_nil, Option.bind_some, hjudge]
  rfl

end Run

/-- The first epoch leaves the snapshot in the file. -/
lemma run_first (reported : List UInt8 → AbstentionCode) :
    (runEpoch verifies reported none (epoch true)).1 = some stored :=
  congrArg Prod.fst (@run_of_open verifies reported (epoch true) releasePolicy manifest none (some stored) _ _ open_first
    rfl gate_first)

/-- The second records the deployment as unavailable. -/
lemma run_second (reported : List UInt8 → AbstentionCode) :
    (runEpoch verifies reported (some stored) (epoch false)).2 =
      .ok ⟨none, [], [⟨target.deploymentID, target.siteDigest, .indexUnavailable⟩],
        some (state (some bound.verified))⟩ := by
  have hjudge : judgeTarget verifies reported (some bound.verified) releasePolicy (epoch false) target =
      .error .indexUnavailable :=
    @judge_unavailable verifies reported releasePolicy target bound.verified (epoch false) rfl rfl rfl
  rw [@run_of_open verifies reported (epoch false) releasePolicy manifest (some stored) (some stored) _ _ open_second
    rfl gate_second]
  exact congrArg Except.ok (load_of_single targets_manifest hjudge)

end Sample

/-- **A revoked index can be recorded as unavailable.** The first epoch installs a snapshot that revokes the key of
the release, and the index of the deployment is revoked under it. In the second epoch the documents of the
deployment are not there: the epoch does not abstain, and does not record the deployment as revoked. -/
theorem revoked_index_unavailable :
    (runEpoch Sample.verifies Sample.reported none (Sample.epoch true)).1 = some Sample.stored ∧
      verifyBoundStaticSiteReleaseRevocation Sample.verifies Sample.stored Sample.revocationPolicy
        [Sample.releasePolicy] = .ok Sample.bound ∧
      loadIndex Sample.verifies Sample.reported Sample.releasePolicy (Sample.epoch true) Sample.target =
        .ok Sample.index ∧
      staticIndexRevoked Sample.bound.verified Sample.index Sample.releasePolicy = true ∧
      Sample.target ∈ staticDeploymentTargets Sample.manifest ∧
      ∃ run, (runEpoch Sample.verifies Sample.reported (some Sample.stored) (Sample.epoch false)).2 = .ok run ∧
        run.abstainedCode = none ∧ ¬ run.Records Sample.target .releaseRevoked := by
  refine ⟨Sample.run_first _, Sample.verify_stored, Sample.index_loaded _, Sample.index_revoked, ?_, _,
    Sample.run_second _, rfl, ?_⟩
  · rw [Sample.targets_manifest]
    exact List.mem_singleton.mpr rfl
  · rw [StaticEpochRun.Records, List.mem_singleton, StaticIndexAbstention.mk.injEq]
    rintro ⟨-, -, hcode⟩
    cases hcode

end StaticRevocation

end Misscomputer
