import Misscomputer.Manifest.Onboarding
import Misscomputer.Organic.Corroboration

set_option relaxedAutoImplicit false
set_option autoImplicit false

/-!
# The identities of a manifest

Evidence is credited to the miner of a replica, which a manifest names by its UID, by its hotkey and by its service
key. The three names should go together: two replicas are of one miner under one of them when they are so under the
others. Live verification compares every replica with the first one of its UID and with the first one of its hotkey,
and with no other of its service key.

## Main definitions

* `Manifest.NamesMiners` — the three names go together.
* `Manifest.Identified` — what the rules ask of the replicas of a manifest.
* `Manifest.SharesServiceKey` — two miners have one service key.

## Main results

* `Manifest.verifyIdentities_eq_ok` — the manifests that are accepted.
* `Manifest.verifyIdentities_perm` — the order of the replicas does not matter.
* `Manifest.verifies_iff_identified_iff` — acceptance means what it should except for a shared service key.

## References

* `src/misscomputer_subnet/organic_manifest.py` (`_verify_identities`)
-/

namespace Misscomputer

namespace Manifest

open Contract
open Organic (ActiveAssignmentManifestV2 OrganicAssignedReplica OrganicDeploymentAssignment)

/-! ## What the rules ask -/

variable {replicas : List OrganicAssignedReplica} {issuedAtEpoch : ℤ}

/-- The UID, the hotkey and the service key of a replica name the same miner. -/
structure NamesMiners (replicas : List OrganicAssignedReplica) : Prop where
  uid_iff_hotkey : ∀ a ∈ replicas, ∀ b ∈ replicas, a.minerUID = b.minerUID ↔ a.minerHotkey = b.minerHotkey
  hotkey_iff_key : ∀ a ∈ replicas, ∀ b ∈ replicas,
    a.minerHotkey = b.minerHotkey ↔ a.minerServicePublicKey = b.minerServicePublicKey

/-- What the rules ask of the replicas of a manifest. -/
structure Identified (issuedAtEpoch : ℤ) (replicas : List OrganicAssignedReplica) : Prop where
  names : NamesMiners replicas
  nonces : (replicas.map OrganicAssignedReplica.assignmentNonce).Nodup
  active : ∀ r ∈ replicas, r.activatedAtEpoch ≤ issuedAtEpoch

/-- Replicas of two miners have the same service key. -/
def SharesServiceKey (replicas : List OrganicAssignedReplica) : Prop :=
  ∃ a ∈ replicas, ∃ b ∈ replicas, a.minerServicePublicKey = b.minerServicePublicKey ∧ a.minerUID ≠ b.minerUID

/-! ## What is checked -/

/-- The rules that are checked: the UIDs and the hotkeys go together, and every miner has one service key. -/
structure Checked (issuedAtEpoch : ℤ) (replicas : List OrganicAssignedReplica) : Prop where
  uid_iff_hotkey : ∀ a ∈ replicas, ∀ b ∈ replicas, a.minerUID = b.minerUID ↔ a.minerHotkey = b.minerHotkey
  key_of_uid : ∀ a ∈ replicas, ∀ b ∈ replicas,
    a.minerUID = b.minerUID → a.minerServicePublicKey = b.minerServicePublicKey
  nonces : (replicas.map OrganicAssignedReplica.assignmentNonce).Nodup
  active : ∀ r ∈ replicas, r.activatedAtEpoch ≤ issuedAtEpoch

/-- The entry of a replica in `by_uid`. -/
def uidEntry (r : OrganicAssignedReplica) : ℤ × String × String :=
  (r.minerUID, r.minerHotkey, r.minerServicePublicKey)

/-- The entry of a replica in `by_hotkey`. -/
def hotkeyEntry (r : OrganicAssignedReplica) : String × ℤ × String :=
  (r.minerHotkey, r.minerUID, r.minerServicePublicKey)

/-- The two dictionaries after a list of replicas. -/
def identitiesAfter (replicas : List OrganicAssignedReplica) : Identities :=
  (Dict.firsts (replicas.map uidEntry), Dict.firsts (replicas.map hotkeyEntry))

lemma identitiesAfter_concat (replicas : List OrganicAssignedReplica) (r : OrganicAssignedReplica) :
    identitiesAfter (replicas ++ [r]) =
      ((identitiesAfter replicas).1.setdefault r.minerUID (r.minerHotkey, r.minerServicePublicKey),
        (identitiesAfter replicas).2.setdefault r.minerHotkey (r.minerUID, r.minerServicePublicKey)) := by
  unfold identitiesAfter
  rw [List.map_append, List.map_append]
  exact Prod.ext (Dict.firsts_concat _ _ _) (Dict.firsts_concat _ _ _)

/-- The replicas that the loop lets pass. -/
structure Consistent (issuedAtEpoch : ℤ) (replicas : List OrganicAssignedReplica) : Prop where
  of_uid : ∀ a ∈ replicas, ∀ b ∈ replicas, a.minerUID = b.minerUID → (uidEntry a).2 = (uidEntry b).2
  of_hotkey : ∀ a ∈ replicas, ∀ b ∈ replicas, a.minerHotkey = b.minerHotkey →
    (hotkeyEntry a).2 = (hotkeyEntry b).2
  active : ∀ r ∈ replicas, r.activatedAtEpoch ≤ issuedAtEpoch

/-- A relation between replicas that is symmetric and reflexive holds of one more replica too when it relates the
replica to the others. -/
lemma forall_concat (replicas : List OrganicAssignedReplica) (r : OrganicAssignedReplica)
    {R : OrganicAssignedReplica → OrganicAssignedReplica → Prop} (hrefl : ∀ a, R a a)
    (hsymm : ∀ a b, R a b → R b a) :
    (∀ a ∈ replicas ++ [r], ∀ b ∈ replicas ++ [r], R a b) ↔
      (∀ a ∈ replicas, ∀ b ∈ replicas, R a b) ∧ ∀ a ∈ replicas, R a r := by
  constructor
  · intro h
    have hlast : r ∈ replicas ++ [r] := by simp
    exact ⟨fun a ha b hb => h a (List.mem_append_left _ ha) b (List.mem_append_left _ hb),
      fun a ha => h a (List.mem_append_left _ ha) r hlast⟩
  · rintro ⟨hbefore, hlast⟩ a ha b hb
    rcases List.mem_append.mp ha with ha | ha <;> rcases List.mem_append.mp hb with hb | hb
    · exact hbefore a ha b hb
    · rw [List.mem_singleton.mp hb]
      exact hlast a ha
    · rw [List.mem_singleton.mp ha]
      exact hsymm b r (hlast b hb)
    · rw [List.mem_singleton.mp ha, List.mem_singleton.mp hb]
      exact hrefl r

/-- A replica may follow others when it agrees with those of its UID and with those of its hotkey. -/
lemma consistent_concat {r : OrganicAssignedReplica} :
    Consistent issuedAtEpoch (replicas ++ [r]) ↔ Consistent issuedAtEpoch replicas ∧
      (∀ a ∈ replicas, a.minerUID = r.minerUID → (uidEntry a).2 = (uidEntry r).2) ∧
      (∀ a ∈ replicas, a.minerHotkey = r.minerHotkey → (hotkeyEntry a).2 = (hotkeyEntry r).2) ∧
      r.activatedAtEpoch ≤ issuedAtEpoch := by
  have huid := forall_concat replicas r
    (R := fun a b => a.minerUID = b.minerUID → (uidEntry a).2 = (uidEntry b).2)
    (fun _ _ => rfl) (fun a b h heq => (h heq.symm).symm)
  have hhotkey := forall_concat replicas r
    (R := fun a b => a.minerHotkey = b.minerHotkey → (hotkeyEntry a).2 = (hotkeyEntry b).2)
    (fun _ _ => rfl) (fun a b h heq => (h heq.symm).symm)
  constructor
  · rintro ⟨h1, h2, h3⟩
    obtain ⟨hu, hur⟩ := huid.mp h1
    obtain ⟨hh, hhr⟩ := hhotkey.mp h2
    exact ⟨⟨hu, hh, fun a ha => h3 a (List.mem_append_left _ ha)⟩, hur, hhr, h3 r (by simp)⟩
  · rintro ⟨⟨hu, hh, h3⟩, hur, hhr, hr⟩
    refine ⟨huid.mpr ⟨hu, hur⟩, hhotkey.mpr ⟨hh, hhr⟩, fun a ha => ?_⟩
    rcases List.mem_append.mp ha with ha | ha
    · exact h3 a ha
    · rw [List.mem_singleton.mp ha]
      exact hr

/-- One round of the loop compares the replica with the first one of its UID and with the first one of its hotkey. -/
lemma verifyIdentity_eq_ok (h : Consistent issuedAtEpoch replicas) {r : OrganicAssignedReplica} {seen : Identities} :
    verifyIdentity issuedAtEpoch (identitiesAfter replicas) r = .ok seen ↔
      Consistent issuedAtEpoch (replicas ++ [r]) ∧ seen = identitiesAfter (replicas ++ [r]) := by
  have huid := Dict.getD_firsts_eq (l := replicas.map uidEntry) (k := r.minerUID)
    (v := (uidEntry r).2) (by
    simp only [List.forall_mem_map]
    exact h.of_uid)
  have hhotkey := Dict.getD_firsts_eq (l := replicas.map hotkeyEntry) (k := r.minerHotkey)
    (v := (hotkeyEntry r).2) (by
    simp only [List.forall_mem_map]
    exact h.of_hotkey)
  rw [List.forall_mem_map] at huid hhotkey
  rw [consistent_concat, identitiesAfter_concat]
  simp only [verifyIdentity, Except.bind_eq_ok, Except.reject_eq_ok, exists_const, not_lt, not_or, not_not]
  change _ ∧ (((identitiesAfter replicas).1.get r.minerUID).getD (uidEntry r).2 = (uidEntry r).2 ∧
    ((identitiesAfter replicas).2.get r.minerHotkey).getD (hotkeyEntry r).2 = (hotkeyEntry r).2) ∧ _ ↔ _
  simp only [identitiesAfter, huid, hhotkey]
  constructor
  · rintro ⟨hactive, ⟨hu, hh⟩, hseen⟩
    exact ⟨⟨h, hu, hh, hactive⟩, (Except.ok.inj hseen).symm⟩
  · rintro ⟨⟨-, hu, hh, hactive⟩, rfl⟩
    exact ⟨hactive, ⟨hu, hh⟩, rfl⟩

section Versions

variable {M : Type} {version : Version M} {value value' : M}

/-- **The manifests that are accepted.**

**Proof sketch.** Induction on the replicas from the end: the dictionaries hold the first replica of each UID and of
each hotkey, and where those before agree the first one speaks for all. -/
theorem verifyIdentities_eq_ok :
    verifyIdentities version value = .ok () ↔
      Checked (version.header value).issuedAtEpoch (version.replicas value) := by
  have hloop : ∀ seen, (version.replicas value).foldlM
      (verifyIdentity (version.header value).issuedAtEpoch) (identitiesAfter []) = .ok seen ↔
        Consistent (version.header value).issuedAtEpoch (version.replicas value) ∧
          seen = identitiesAfter (version.replicas value) := by
    intro seen
    apply Except.foldlM_eq_ok
    · exact ⟨fun _ h => (List.not_mem_nil h).elim, fun _ h => (List.not_mem_nil h).elim,
        fun _ h => (List.not_mem_nil h).elim⟩
    · intro l r h
      exact (consistent_concat.mp h).1
    · intro l r s hl
      exact verifyIdentity_eq_ok hl
  simp only [verifyIdentities, Except.bind_eq_ok, Except.reject_eq_ok, exists_const, not_not]
  constructor
  · rintro ⟨hnonces, seen, hseen, -⟩
    obtain ⟨⟨huid, hhotkey, hactive⟩, -⟩ := (hloop seen).mp hseen
    refine ⟨fun a ha b hb => ⟨fun h => ?_, fun h => ?_⟩, fun a ha b hb h => ?_, hnonces, hactive⟩
    · exact (Prod.mk.inj (huid a ha b hb h)).1
    · exact (Prod.mk.inj (hhotkey a ha b hb h)).1
    · exact (Prod.mk.inj (huid a ha b hb h)).2
  · rintro ⟨huid, hkey, hnonces, hactive⟩
    refine ⟨hnonces, _, (hloop _).mpr ⟨⟨fun a ha b hb h => ?_, fun a ha b hb h => ?_, hactive⟩, rfl⟩, rfl⟩
    · exact Prod.ext ((huid a ha b hb).mp h) (hkey a ha b hb h)
    · have h' := (huid a ha b hb).mpr h
      exact Prod.ext h' (hkey a ha b hb h')

/-- **The order does not matter.** Two manifests of one issuance that list the same replicas, in whatever order, are
both accepted or both refused. -/
theorem verifyIdentities_perm (hperm : (version.replicas value).Perm (version.replicas value'))
    (hissued : (version.header value).issuedAtEpoch = (version.header value').issuedAtEpoch) :
    verifyIdentities version value = .ok () ↔ verifyIdentities version value' = .ok () := by
  have hmem : ∀ r, r ∈ version.replicas value ↔ r ∈ version.replicas value' := fun r => hperm.mem_iff
  have hnonces := (hperm.map OrganicAssignedReplica.assignmentNonce).nodup_iff
  rw [verifyIdentities_eq_ok, verifyIdentities_eq_ok, hissued]
  constructor
  · rintro ⟨huid, hkey, hn, hactive⟩
    simp only [hmem] at huid hkey hactive
    exact ⟨huid, hkey, hnonces.mp hn, hactive⟩
  · rintro ⟨huid, hkey, hn, hactive⟩
    simp only [← hmem] at huid hkey hactive
    exact ⟨huid, hkey, hnonces.mpr hn, hactive⟩

/-- The rules ask for what is checked, and that no two miners share a service key. -/
lemma identified_iff : Identified issuedAtEpoch replicas ↔
    Checked issuedAtEpoch replicas ∧ ¬ SharesServiceKey replicas := by
  constructor
  · rintro ⟨⟨huid, hkey⟩, hnonces, hactive⟩
    refine ⟨⟨huid, fun a ha b hb h => ?_, hnonces, hactive⟩, ?_⟩
    · exact (hkey a ha b hb).mp ((huid a ha b hb).mp h)
    · rintro ⟨a, ha, b, hb, hsame, hother⟩
      exact hother ((huid a ha b hb).mpr ((hkey a ha b hb).mpr hsame))
  · rintro ⟨⟨huid, hkey, hnonces, hactive⟩, hshares⟩
    refine ⟨⟨huid, fun a ha b hb => ?_⟩, hnonces, hactive⟩
    constructor
    · intro h
      exact hkey a ha b hb ((huid a ha b hb).mpr h)
    · intro h
      refine (huid a ha b hb).mp (by_contra fun hother => hshares ?_)
      exact ⟨a, ha, b, hb, h, hother⟩

/-- **Acceptance means that the names go together, but for the service keys.** A manifest is accepted exactly when it
has the properties of `Identified`, unless two of its miners share a service key and it breaks no rule besides.

**Proof sketch.** A manifest is accepted when it is `Checked`; the properties ask for no shared service key besides. -/
theorem verifies_iff_identified_iff {M : Type} (version : Version M) (value : M) :
    (verifyIdentities version value = .ok () ↔
        Identified (version.header value).issuedAtEpoch (version.replicas value)) ↔
      (SharesServiceKey (version.replicas value) →
        ¬ Checked (version.header value).issuedAtEpoch (version.replicas value)) := by
  rw [verifyIdentities_eq_ok, identified_iff]
  tauto

end Versions

/-! ## A shared service key -/

namespace Sample

/-- A second miner of the deployment, under the service key of the first. -/
def secondReplica : OrganicAssignedReplica :=
  { Organic.Sample.replica with
    minerUID := 8
    minerHotkey := "5Other"
    assignmentNonce := Organic.Sample.repeated 32 'd'
    replicaID := "app-5Other"
    endpointID := "app-5Other-g1-dddddddddddddddddddddddddddddddd" }

/-- The deployment with both miners. -/
def sharedDeployment : OrganicDeploymentAssignment :=
  OrganicDeploymentAssignment.sealed
    { Organic.Sample.draft with replicas := [Organic.Sample.replica, secondReplica] }

/-- The manifest with both miners. -/
def sharedManifest : ActiveAssignmentManifestV2 :=
  ActiveAssignmentManifestV2.sealed
    { Organic.Sample.unsealed with
      deployments := [sharedDeployment]
      assignmentVectorDigestSha256 := digest (.arr [sharedDeployment.toJson]) }

lemma secondReplica_valid : secondReplica.Valid := by
  obtain ⟨-, -, hkey, hcertificate, hgeneration, -, -, -, hrest⟩ := Organic.Sample.replica_valid
  exact ⟨by decide, by decide, hkey, hcertificate, hgeneration, by decide, by decide, by decide, hrest⟩

lemma sharedDeployment_valid : sharedDeployment.Valid := by
  obtain ⟨hid, hhost, hartifact, hhealth, -, -, -, -, -, hreplicas, -⟩ := Organic.Sample.deployment_valid
  have hmembers : ∀ r ∈ [Organic.Sample.replica, secondReplica],
      r = Organic.Sample.replica ∨ r = secondReplica := fun r hr => List.mem_pair.mp hr
  refine ⟨hid, hhost, hartifact, hhealth, by decide, by decide, ?_, hex64_digest _, ?_, ?_,
    OrganicDeploymentAssignment.digest_sealed _⟩
  · intro r hr
    rcases hmembers r hr with rfl | rfl
    · exact Organic.Sample.replica_valid
    · exact secondReplica_valid
  · exact Sorting.eq_sortedSet_iff.mpr (by decide)
  · intro r hr
    rcases hmembers r hr with rfl | rfl
    · exact hreplicas _ List.mem_cons_self
    · decide

lemma sharedManifest_valid : sharedManifest.Valid := by
  obtain ⟨hauthority, hpolicy, hheight, hhash, hepoch, hsequence, hprevious, hissued, hexpires, hsuffix, hport, -, -, -, -,
    hwindow, hfirst, -, hhosts, -, -, -⟩ := Organic.Sample.manifest_valid
  obtain ⟨hhost, hreplica⟩ := hhosts _ List.mem_cons_self
  refine ⟨hauthority, hpolicy, hheight, hhash, hepoch, hsequence, hprevious, hissued, hexpires, hsuffix, hport, by decide,
    ?_, hex64_digest _, hex64_digest _, hwindow, hfirst, ?_, ?_, by decide, rfl,
    ActiveAssignmentManifestV2.digest_sealed _⟩
  · intro d hd
    rw [List.mem_singleton.mp hd]
    exact sharedDeployment_valid
  · exact Sorting.eq_sortedSet_iff.mpr (List.pairwise_singleton _ _)
  · intro d hd
    rw [List.mem_singleton.mp hd]
    refine ⟨hhost, fun r hr => ?_⟩
    rcases List.mem_pair.mp hr with rfl | rfl
    · exact hreplica _ List.mem_cons_self
    -- the second replica expires where the first does
    · exact hreplica Organic.Sample.replica List.mem_cons_self

end Sample

/-- A valid manifest is accepted although the miners 7 and 8 have one service key. -/
theorem shared_service_key_accepted :
    Sample.sharedManifest.Valid ∧ verifyIdentities versionV2 Sample.sharedManifest = .ok () ∧
      ¬ Identified (versionV2.header Sample.sharedManifest).issuedAtEpoch
        (versionV2.replicas Sample.sharedManifest) := by
  refine ⟨Sample.sharedManifest_valid, ?_, ?_⟩
  · rw [verifyIdentities_eq_ok]
    change Checked 300 [Organic.Sample.replica, Sample.secondReplica]
    exact ⟨by decide, by decide, by decide, by decide⟩
  · rw [identified_iff]
    rintro ⟨-, hshares⟩
    apply hshares
    exact ⟨Organic.Sample.replica, List.mem_cons_self, Sample.secondReplica,
      List.mem_cons_of_mem _ List.mem_cons_self, rfl, by decide⟩

end Manifest

end Misscomputer
