import Misscomputer.Organic.Epochs

set_option relaxedAutoImplicit false
set_option autoImplicit false

/-!
# Corroboration and the score

The counters of serving windows are summarized in the sealed record. They enter no availability, but the
record bounds the summary: windows that do not fit refuse the whole epoch.

## Main definitions

* `Organic.SameScore` — two records agree but for what they say of the corroboration.

## Main results

* `Organic.scoredEpoch_sameScore` — whatever windows are attached, the score is the same.
* `Organic.corroboration_never_scores_iff` — two sequences of windows are treated alike exactly when the
  epoch is refused anyway, or both of them fit, or neither does.

## References

* `src/misscomputer_subnet/organic_scoring.py`
-/

namespace Misscomputer

namespace Organic

open Contract

/-- What an endpoint's row says of the score. -/
def EndpointEpochTally.scored (t : EndpointEpochTally) : EndpointEpochTally :=
  { t with corroboratingWindows := 0, corroboratingRequests := 0 }

/-- Two records agree on status, endpoints, inconclusive deployments and evidence. -/
def SameScore (r r' : OrganicEpochScore) : Prop :=
  r.epochStatus = r'.epochStatus ∧
    r.endpoints.map EndpointEpochTally.scored = r'.endpoints.map EndpointEpochTally.scored ∧
    r.inconclusiveDeployments = r'.inconclusiveDeployments ∧ r.fraudEvidence = r'.fraudEvidence

/-- The rows say the same of the score. -/
lemma map_scored_endpointRow (minAttempts : ℤ) (tallies : Dict String Tally)
    (windows windows' : Dict String (List ServingCorroboration)) (entries : List (String × Tally)) :
    (entries.map (endpointRow minAttempts tallies windows)).map EndpointEpochTally.scored =
      (entries.map (endpointRow minAttempts tallies windows')).map EndpointEpochTally.scored := by
  rw [List.map_map, List.map_map]
  rfl

/-- The eligible rows are the same. -/
lemma countP_eligible (minAttempts : ℤ) (tallies : Dict String Tally)
    (windows windows' : Dict String (List ServingCorroboration)) (entries : List (String × Tally)) :
    (entries.map (endpointRow minAttempts tallies windows)).countP (fun row => row.disposition = .eligible) =
      (entries.map (endpointRow minAttempts tallies windows')).countP
        fun row => row.disposition = .eligible := by
  rw [List.countP_map, List.countP_map]
  rfl

/-- **Whatever windows are attached, the score is the same.** -/
theorem scoredEpoch_sameScore (policy : EpochPolicy) (observations : List OrganicProbeObservation)
    (c c' : List ServingCorroboration) :
    SameScore (scoredEpoch policy observations c) (scoredEpoch policy observations c') := by
  refine ⟨?_, map_scored_endpointRow _ _ _ _ _, rfl, rfl⟩
  simp only [scoredEpoch, epochRecord, summarize]
  rw [countP_eligible]

/-- **When corroboration is without influence.** Of two sequences of valid windows both are accepted or
both are refused, with the same score if they are accepted, exactly when the epoch is refused for what it
holds besides, or the two sequences both fit in the record, or neither does.

**Proof sketch.** `scoreOrganicEpoch_eq_ok` splits acceptance into a part without windows and the bounds on
windows; `scoredEpoch_sameScore` gives the scores. -/
theorem corroboration_never_scores_iff (ed25519 : String → String → List UInt8 → Bool)
    (manifests : List ActiveAssignmentManifestV2) (observations : List OrganicProbeObservation)
    (policy : EpochPolicy) (c c' : List ServingCorroboration) (hc : ∀ w ∈ c, w.Valid)
    (hc' : ∀ w ∈ c', w.Valid) :
    (((∃ r, scoreOrganicEpoch ed25519 manifests observations policy c = .ok r) ↔
        ∃ r, scoreOrganicEpoch ed25519 manifests observations policy c' = .ok r) ∧
      ∀ r r', scoreOrganicEpoch ed25519 manifests observations policy c = .ok r →
        scoreOrganicEpoch ed25519 manifests observations policy c' = .ok r' → SameScore r r') ↔
      (Scorable ed25519 manifests observations policy →
        (Fits policy observations c ↔ Fits policy observations c')) := by
  simp only [scoreOrganicEpoch_eq_ok]
  constructor
  · rintro ⟨hboth, -⟩ hscorable
    constructor
    · intro hfits
      obtain ⟨r, -, -, hfits', -⟩ := hboth.mp ⟨_, hscorable, hc, hfits, rfl⟩
      exact hfits'
    · intro hfits
      obtain ⟨r, -, -, hfits', -⟩ := hboth.mpr ⟨_, hscorable, hc', hfits, rfl⟩
      exact hfits'
  · intro h
    refine ⟨⟨?_, ?_⟩, ?_⟩
    · rintro ⟨r, hscorable, -, hfits, -⟩
      exact ⟨_, hscorable, hc', (h hscorable).mp hfits, rfl⟩
    · rintro ⟨r, hscorable, -, hfits, -⟩
      exact ⟨_, hscorable, hc, (h hscorable).mpr hfits, rfl⟩
    · rintro r r' ⟨-, -, -, rfl⟩ ⟨-, -, -, rfl⟩
      exact scoredEpoch_sameScore policy observations c c'

/-! ## A sample epoch -/

namespace Sample

/-- A hexadecimal digit, repeated. -/
def repeated (n : ℕ) (c : Char) : String := String.ofList (List.replicate n c)

/-- The one replica of the sample. -/
def replica : OrganicAssignedReplica where
  minerUID := 7
  minerHotkey := "5Miner"
  minerServicePublicKey := repeated 64 'a'
  minerTLSCertificateSha256 := repeated 64 'b'
  generation := 1
  assignmentNonce := repeated 32 'c'
  replicaID := "app-5Miner"
  endpointID := "app-5Miner-g1-cccccccccccccccccccccccccccccccc"
  ticketDigest := "sha256:" ++ repeated 64 'd'
  receiptDigest := "sha256:" ++ repeated 64 'e'
  chainBlock := 10
  expiresAtBlock := 1000
  activatedAtEpoch := 0
  expiresAtEpoch := 100000

/-- The health predicate of the sample. -/
def health : OrganicHealthProbe where
  method := .get
  path := "/"
  expectedStatuses := [200]
  responseMarker := none

/-- The one deployment of the sample, without its digest. -/
def draft : OrganicDeploymentAssignment where
  deploymentID := "app"
  routeHost := "app.apps.example"
  artifactDigest := "sha256:" ++ repeated 64 'f'
  health := health
  replicas := [replica]
  assignmentDigestSha256 := ""

/-- The one deployment of the sample. -/
def deployment : OrganicDeploymentAssignment := draft.sealed

/-- The manifest of the sample, without its digest. -/
def unsealed : ActiveAssignmentManifestV2 where
  centralAuthorityFingerprintSha256 := repeated 64 '1'
  trustPolicyDigestSha256 := repeated 64 '2'
  finalizedHeight := 20
  finalizedBlockHash := repeated 64 '3'
  finalizedEpoch := 2
  sequence := 1
  previousManifestDigestSha256 := none
  issuedAtEpoch := 300
  expiresAtEpoch := 90000
  routeHostSuffix := "apps.example"
  probePort := 443
  deployments := [deployment]
  assignmentVectorDigestSha256 := digest (.arr [deployment.toJson])
  manifestDigestSha256 := ""

/-- The manifest of the sample. -/
def manifest : ActiveAssignmentManifestV2 := unsealed.sealed

lemma replica_valid : replica.Valid :=
  ⟨by decide, by decide, hex64_replicate (c := 'a') (by decide), hex64_replicate (c := 'b') (by decide), by decide,
    lowercaseHex_replicate (c := 'c') (by decide) 32, by decide, by decide, sha256Digest_replicate (c := 'd') (by decide),
    sha256Digest_replicate (c := 'e') (by decide), by decide, by decide, by decide, by decide, by decide, by decide,
    by decide⟩

lemma deployment_valid : deployment.Valid := by
  refine ⟨by decide, by decide, by decide, by decide, by decide, by decide, ?_, hex64_digest _, ?_, ?_,
    draft.digest_sealed⟩
  · intro r hr
    rw [List.mem_singleton.mp hr]
    exact replica_valid
  · exact Sorting.eq_sortedSet_iff.mpr (List.pairwise_singleton _ _)
  · intro r hr
    rw [List.mem_singleton.mp hr]
    decide

lemma manifest_valid : manifest.Valid := by
  refine ⟨by decide, by decide, by decide, by decide, by decide, by decide, by decide, by decide, by decide,
    by decide, by decide, by decide, ?_, hex64_digest _, hex64_digest _, by decide, by decide, ?_, ?_, by decide,
    rfl, unsealed.digest_sealed⟩
  · intro d hd
    rw [List.mem_singleton.mp hd]
    exact deployment_valid
  · exact Sorting.eq_sortedSet_iff.mpr (List.pairwise_singleton _ _)
  · intro d hd
    rw [List.mem_singleton.mp hd]
    refine ⟨by decide, fun r hr => ?_⟩
    rw [List.mem_singleton.mp hr]
    decide

/-- A probe of the sample that timed out, without its digest. -/
def timedOut : OrganicProbeObservation where
  validatorHotkey := "5Validator"
  manifestDigestSha256 := manifest.manifestDigestSha256
  trustPolicyDigestSha256 := manifest.trustPolicyDigestSha256
  deploymentID := "app"
  assignmentDigestSha256 := deployment.assignmentDigestSha256
  endpointID := replica.endpointID
  generation := 1
  minerUID := 7
  minerHotkey := "5Miner"
  probeNonce := repeated 64 '4'
  issuedAt := "1970-01-01T00:06:40Z"
  requestMethod := .get
  requestPath := "/"
  latencyMillis := 30000
  outcome := .failure
  failureCode := some .timeout
  attribution := .path
  upstreamMarker := false
  responseStatus := none
  responseBytes := 0
  responseBodySha256 := none
  tlsLeafCertificateSha256 := none
  attestationStatus := .notPresented
  attestation := none
  observationDigestSha256 := ""

/-- A probe of the sample that timed out. -/
def observation : OrganicProbeObservation := timedOut.sealed

lemma observation_valid : observation.Valid := by
  refine ⟨⟨by decide, hex64_digest _, by decide, by decide, hex64_digest _, by decide, by decide, by decide,
    by decide, by decide, by decide, by decide, by decide, by decide, by decide, by decide, by decide,
    by decide, hex64_digest _⟩, ?_⟩
  exact ⟨by decide, by decide, by decide, by decide, by decide, by decide, by decide,
    timedOut.digest_sealed⟩

/-- The policy of the sample. -/
def policy : EpochPolicy where
  validatorHotkey := "5Validator"
  epochIndex := 1
  epochSeconds := 300
  minAttempts := 2

lemma verify_observation : verifyAgainstManifest (fun _ _ _ => false) observation (some manifest) = .ok () := by
  have hfind : findReplica manifest observation.endpointID = some (deployment, replica) := rfl
  have hpublished : ¬ Unpublished observation manifest deployment replica := by
    simp only [Unpublished, not_or, not_not]
    exact ⟨rfl, rfl, rfl, rfl, rfl, rfl, rfl, rfl⟩
  have hseconds : timestampEpochSeconds observation.issuedAt = some 400 := by decide
  have hhorizon : manifestValidAt manifest 400 := by decide
  have hconsistent : ¬ Inconsistent observation deployment.health := by decide
  simp only [verifyAgainstManifest, hfind, hseconds, Except.bind_eq_ok, Except.reject_eq_ok, exists_const,
    hpublished, hconsistent, not_false_eq_true, not_not, hhorizon, true_and, and_true]
  exact ⟨(), rfl⟩

lemma inEpoch : InEpoch policy.epochSeconds policy.epochIndex observation.issuedAt :=
  ⟨400, by decide, by decide⟩

lemma scorable : Scorable (fun _ _ _ => false) [manifest] [observation] policy where
  epochSeconds := by decide
  minAttempts := by decide
  validatorHotkey := by decide
  epochIndex := by decide
  manifestsValid := List.forall_mem_singleton.mpr manifest_valid
  observationsValid := List.forall_mem_singleton.mpr observation_valid
  judged := by
    refine judged_concat.mpr ⟨judged_nil, rfl, ⟨List.not_mem_nil, List.not_mem_nil⟩, inEpoch, ?_⟩
    have hindex : (manifestIndex [manifest]).get observation.manifestDigestSha256 = some manifest := by
      rw [manifestIndex, Dict.get_lasts]
      simp [observation, OrganicProbeObservation.sealed, timedOut]
    rw [hindex]
    exact verify_observation
  tallied := tallied_concat.mpr ⟨tallied_nil _ _, inEpoch,
    Dict.oneToOne_concat.mpr ⟨Dict.oneToOne_nil, by simp⟩, by simp, by decide⟩
  count := by decide
  manifestCount := Sorting.length_sortedSet_le.trans (by decide)
  deploymentCount := by decide
  endpointCount := Sorting.length_sortedSet_le.trans (by decide)

/-- A window of the sample's endpoint in the sample's epoch. -/
def window (c : Char) (requests : ℤ) : ServingCorroboration where
  endpointID := replica.endpointID
  windowStartEpoch := 300
  windowDigestSha256 := repeated 64 c
  requests := requests
  origin := false

/-- Two windows with as many requests as a window can count. -/
def heavy : List ServingCorroboration := [window '5' maxInt, window '6' maxInt]

lemma fits_nil : Fits policy [observation] [] := by
  refine ⟨by decide, fun o ho => ?_⟩
  rw [List.mem_singleton.mp ho]
  decide

lemma fits_window : Fits policy [observation] [window '5' 10] := by
  refine ⟨by decide, fun o ho => ?_⟩
  rw [List.mem_singleton.mp ho]
  decide

lemma not_fits_heavy : ¬ Fits policy [observation] heavy := by
  intro h
  have hsum := h.2 observation (List.mem_singleton_self _)
  revert hsum
  decide

end Sample

/-- One window of ten requests leaves the sample's score alone. -/
theorem corroboration_never_scores_one_window :
    ((∃ r, scoreOrganicEpoch (fun _ _ _ => false) [Sample.manifest] [Sample.observation] Sample.policy [] =
        .ok r) ↔
      ∃ r, scoreOrganicEpoch (fun _ _ _ => false) [Sample.manifest] [Sample.observation] Sample.policy
        [Sample.window '5' 10] = .ok r) ∧
    ∀ r r', scoreOrganicEpoch (fun _ _ _ => false) [Sample.manifest] [Sample.observation] Sample.policy [] =
        .ok r →
      scoreOrganicEpoch (fun _ _ _ => false) [Sample.manifest] [Sample.observation] Sample.policy
        [Sample.window '5' 10] = .ok r' → SameScore r r' :=
  (corroboration_never_scores_iff _ _ _ _ _ _ (by simp) (List.forall_mem_singleton.mpr (by decide))).mpr
    fun _ => iff_of_true Sample.fits_nil Sample.fits_window

/-- **Corroboration refuses an epoch.** The sample is scored without windows and refused with two windows of
`2 ^ 63 - 1` requests each. -/
theorem heavy_windows_refuse :
    (∀ w ∈ Sample.heavy, w.Valid) ∧
      (∃ r, scoreOrganicEpoch (fun _ _ _ => false) [Sample.manifest] [Sample.observation] Sample.policy [] =
        .ok r) ∧
      ¬ ∃ r, scoreOrganicEpoch (fun _ _ _ => false) [Sample.manifest] [Sample.observation] Sample.policy
        Sample.heavy = .ok r := by
  refine ⟨by decide, ?_, ?_⟩
  · exact ⟨_, scoreOrganicEpoch_eq_ok.mpr ⟨Sample.scorable, by simp, Sample.fits_nil, rfl⟩⟩
  · rintro ⟨r, hr⟩
    exact Sample.not_fits_heavy (scoreOrganicEpoch_eq_ok.mp hr).2.2.1

end Organic

end Misscomputer
