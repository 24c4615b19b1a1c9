import Misscomputer.Organic.Corroboration
import Misscomputer.Organic.Window
import Misscomputer.Static.Faults
import Misscomputer.Static.Window

set_option relaxedAutoImplicit false
set_option autoImplicit false

/-!
# Fraud and means over a window

What the two windows say of their epochs: the availability of a miner is the exact mean over its eligible
endpoints, and no evidence of an epoch is lost or counted twice.

## Main definitions

* `Organic.samplesOf`, `StaticScoring.samplesOf` — the samples a window's means are taken over.

## Main results

* `Scoring.fraud_surfaces` — a fraudulent attestation is in the evidence of its epoch and of every window.
* `Scoring.window_means_exact` — the means of both windows are exact, and both refuse exactly the epochs whose
  UIDs and hotkeys are not paired one to one.

## References

* `src/misscomputer_subnet/organic_scoring.py` (`_derive_epoch`, `aggregate_organic_window`)
* `src/misscomputer_subnet/static_scoring.py` (`_derive_static_epoch`, `aggregate_static_window`)
-/

namespace Misscomputer

namespace Scoring

/-- Exact means do not depend on the order of the samples. -/
lemma ExactMeans.perm {samples samples' : List Sample} {miners : List MinerMean} (hperm : samples.Perm samples')
    (h : ExactMeans samples miners) : ExactMeans samples' miners where
  listed key := (h.listed key).trans ⟨fun ⟨x, hx, hkey⟩ => ⟨x, hperm.mem_iff.mp hx, hkey⟩,
    fun ⟨x, hx, hkey⟩ => ⟨x, hperm.mem_iff.mpr hx, hkey⟩⟩
  ascending := h.ascending
  counted m hm := (h.counted m hm).trans (hperm.filter _).length_eq
  mean m hm := by
    have hof : (samplesOf samples m.key).Perm (samplesOf samples' m.key) := hperm.filter _
    rw [h.mean m hm, (hof.map _).sum_eq, hof.length_eq]
  reduced := h.reduced

end Scoring

/-! ## The organic scorer -/

namespace Organic

open Contract
open Scoring (ExactMeans MinerMean)

/-- The sample of an endpoint's row. -/
def EndpointEpochTally.sample (t : EndpointEpochTally) : Scoring.Sample where
  miner := toLex (t.minerUID, t.minerHotkey)
  successes := t.successes
  attempts := t.attempts

/-- The eligible endpoints of the epochs, as samples. -/
def samplesOf (epochs : List OrganicEpochScore) : List Scoring.Sample :=
  epochs.flatMap fun e => (e.endpoints.filter fun t => t.disposition = .eligible).map EndpointEpochTally.sample

section Epoch

variable {ed25519 : String → String → List UInt8 → Bool} {manifests : List ActiveAssignmentManifestV2}
  {observations : List OrganicProbeObservation} {policy : EpochPolicy}
  {corroboration : List ServingCorroboration} {record : OrganicEpochScore}

/-- A scored epoch is sealed. -/
lemma valid_of_scoreOrganicEpoch
    (h : scoreOrganicEpoch ed25519 manifests observations policy corroboration = .ok record) : record.Valid := by
  simp only [scoreOrganicEpoch, Except.bind_eq_ok, Except.forM_eq_ok, revalidate_eq_ok, exists_const] at h
  obtain ⟨-, -, -, -, -, -, -, -, -, _, -, hvalid, hok⟩ := h
  exact Except.ok.inj hok ▸ hvalid

/-- The fraud evidence of a scored epoch. -/
lemma fraudEvidence_perm
    (h : scoreOrganicEpoch ed25519 manifests observations policy corroboration = .ok record) :
    record.fraudEvidence.Perm
      ((observations.filter fun o => o.attestationStatus = .fraudulent).map fraudRow) := by
  obtain ⟨-, -, -, rfl⟩ := scoreOrganicEpoch_eq_ok.mp h
  refine (Sorting.sortOn_perm _ _).trans ?_
  exact ((Sorting.sortOn_perm observationOrder observations).filter _).map fraudRow

/-- A fraudulent observation is in the evidence once. -/
theorem fraud_of_scoreOrganicEpoch
    (h : scoreOrganicEpoch ed25519 manifests observations policy corroboration = .ok record)
    {o : OrganicProbeObservation} (ho : o ∈ observations) (hfraud : o.attestationStatus = .fraudulent) :
    (record.fraudEvidence.filter fun row => row.observationDigestSha256 = o.observationDigestSha256) =
      [fraudRow o] := by
  have hdigests := (scoreOrganicEpoch_eq_ok.mp h).1.judged.digests
  have hnodup : ((observations.filter fun o => o.attestationStatus = .fraudulent).map
      OrganicProbeObservation.observationDigestSha256).Nodup :=
    hdigests.sublist (List.filter_sublist.map _)
  have hmem : o ∈ observations.filter fun o => o.attestationStatus = .fraudulent :=
    List.mem_filter.mpr ⟨ho, decide_eq_true hfraud⟩
  apply List.perm_singleton.mp
  refine ((fraudEvidence_perm h).filter _).trans ?_
  rw [List.filter_map]
  exact (congrArg (List.map fraudRow) (Dict.filter_eq_singleton hnodup hmem)) ▸ List.Perm.refl _

end Epoch

section Window

variable {epochs : List OrganicEpochScore} {s : OrganicAvailabilityScore}

/-- The evidence of a window is that of its epochs. -/
lemma fraudEvidence_window (h : aggregateOrganicWindow epochs = .ok s) :
    s.fraudEvidence.Perm (epochs.flatMap fun e => e.fraudEvidence) := by
  obtain ⟨-, -, -, e, -, rfl⟩ := aggregateOrganicWindow_eq_ok.mp h
  exact (Sorting.sortOn_perm _ _).trans ((sortedEpochs_perm epochs).flatMap_right _)

/-- The counts of the endpoints' rows, hotkey by hotkey. -/
lemma fraudCounts_eq (endpoints : List EndpointEpochTally) (hotkey : String) :
    ((fraudCounts endpoints).get hotkey).getD 0 =
      ((endpoints.filter fun t => t.minerHotkey = hotkey).map EndpointEpochTally.fraudulentAttestations).sum := by
  have hcollect : ((fraudCounts endpoints).get hotkey).getD 0 =
      (endpoints.filter fun t => t.minerHotkey = hotkey).foldl (fun n t => n + t.fraudulentAttestations) 0 :=
    Dict.getD_collect (f := fun n (t : EndpointEpochTally) => n + t.fraudulentAttestations) endpoints hotkey
  rw [hcollect]
  induction endpoints.filter (fun t => t.minerHotkey = hotkey) using List.reverseRecOn with
  | nil => rfl
  | append_singleton l t ih => simp [ih]

/-- The counters of the endpoints of valid epochs count their evidence. -/
lemma sum_frauds (hvalid : ∀ e ∈ epochs, e.Valid) (hotkey : String) :
    (((endpointsOf epochs).filter fun t => t.minerHotkey = hotkey).map
        EndpointEpochTally.fraudulentAttestations).sum =
      (epochs.flatMap fun e => e.fraudEvidence).countP fun row => row.minerHotkey = hotkey := by
  induction epochs with
  | nil => rfl
  | cons e rest ih =>
    have hrest := ih fun e' he' => hvalid e' (List.mem_cons_of_mem e he')
    rw [endpointsOf] at hrest
    rw [endpointsOf, List.flatMap_cons, List.filter_append, List.map_append, List.sum_append, hrest,
      List.flatMap_cons, List.countP_append, (hvalid e List.mem_cons_self).frauds]

/-- **The counter of a miner counts the rows of evidence that name its hotkey.** -/
theorem frauds_window (h : aggregateOrganicWindow epochs = .ok s) {m : MinerAvailability} (hm : m ∈ s.miners) :
    m.fraudulentAttestations = s.fraudEvidence.countP fun row => row.minerHotkey = m.minerHotkey := by
  have hevidence := fraudEvidence_window h
  obtain ⟨hwindowed, -, -, e, -, rfl⟩ := aggregateOrganicWindow_eq_ok.mp h
  obtain ⟨mean, -, rfl⟩ := List.mem_map.mp hm
  have hvalid : ∀ e ∈ sortedEpochs epochs, e.Valid :=
    fun e he => hwindowed.epochsValid e ((sortedEpochs_perm epochs).mem_iff.mp he)
  rw [hevidence.countP_eq, ← ((sortedEpochs_perm epochs).flatMap_right _).countP_eq, ← sum_frauds hvalid,
    ← fraudCounts_eq]

/-- The samples of the epochs are the eligible rows of their endpoints. -/
lemma samplesOf_eq (epochs : List OrganicEpochScore) : samplesOf epochs =
    ((endpointsOf epochs).filter fun t => t.view.eligible).map EndpointEpochTally.sample := by
  rw [samplesOf, endpointsOf, List.filter_flatMap, List.map_flatMap]
  rfl

/-- **The means of a window are exact.** -/
theorem means_window (h : aggregateOrganicWindow epochs = .ok s) :
    ExactMeans (samplesOf epochs) (s.miners.map fun m => m.toMinerMean) := by
  obtain ⟨hwindowed, -, -, e, -, rfl⟩ := aggregateOrganicWindow_eq_ok.mp h
  have hmeans : (windowOf e.validatorHotkey e.epochSeconds epochs).miners.map (fun m => m.toMinerMean) =
      Scoring.windowMiners (rowsOf (sortedEpochs epochs)) := by
    rw [windowOf, windowRecord, List.map_map]
    exact List.map_id _
  have hperm := sortedEpochs_perm epochs
  have hsamples : (samplesOf (sortedEpochs epochs)).Perm (samplesOf epochs) := hperm.flatMap_right _
  rw [hmeans]
  refine ExactMeans.perm hsamples ?_
  rw [samplesOf_eq]
  apply Scoring.exactMeans_windowMiners
  · intro t _
    rfl
  · intro t ht helig
    obtain ⟨e, he, ht⟩ := List.mem_flatMap.mp ht
    have hvalid := hwindowed.epochsValid e (hperm.mem_iff.mp he)
    exact (hvalid.availability ht (of_decide_eq_true helig)).2

/-- An epoch that is not scored has no sample. -/
lemma samplesOf_not_scored {e : OrganicEpochScore} (h : e.Valid) (hstatus : e.epochStatus ≠ .scored) :
    samplesOf [e] = [] := by
  rw [samplesOf, List.flatMap_singleton, List.map_eq_nil_iff, List.filter_eq_nil_iff]
  intro t ht helig
  exact h.not_eligible hstatus ht (of_decide_eq_true helig)

/-- The miners of a window are no more than its endpoints. -/
lemma length_windowMiners_le (epochs : List OrganicEpochScore) :
    (Scoring.windowMiners (rowsOf epochs)).length ≤ (endpointsOf epochs).length := by
  rw [Scoring.windowMiners, List.length_map]
  refine Sorting.length_sortedSet_le.trans ?_
  rw [List.length_map, Scoring.eligibleRows]
  refine (List.length_filter_le _ _).trans ?_
  rw [rowsOf, List.length_map]

/-- A sealed epoch alone is a window. -/
lemma aggregateOrganicWindow_singleton {e : OrganicEpochScore} (h : e.Valid) :
    ∃ s, aggregateOrganicWindow [e] = .ok s := by
  have hfew : 1 ≤ maxEpochs := by decide
  have hwindowed : Windowed [e] := by
    refine ⟨List.forall_mem_singleton.mpr h, List.cons_ne_nil _ _, hfew, List.nodup_singleton _, ?_, ?_⟩
    · simp
    · simp
  have hone : Dict.OneToOne (identitiesOf [e]) := by
    refine h.derived.1.miners.mono fun pair hpair => ?_
    obtain ⟨t, ht, rfl⟩ := List.mem_map.mp hpair
    obtain ⟨e', he', ht⟩ := List.mem_flatMap.mp ht
    rw [List.mem_singleton.mp he'] at ht
    obtain ⟨⟨endpoint, tally⟩, hentry, rfl⟩ := h.mem_endpoints ht
    obtain ⟨first, hfirst, -, rfl, -⟩ := exists_first hentry
    exact List.mem_map.mpr ⟨first, hfirst, rfl⟩
  have hfits : WindowFits [e] := by
    obtain ⟨-, -, -, -, -, -, -, -, -, -, hendpoints, -, hfrauds, -⟩ := h.1
    refine ⟨(length_windowMiners_le [e]).trans ?_, ?_⟩
    · rw [endpointsOf, List.flatMap_singleton]
      exact hendpoints
    · rw [List.flatMap_singleton]
      exact hfrauds
  exact ⟨_, aggregateOrganicWindow_eq_ok.mpr ⟨hwindowed, hone, hfits, e, List.mem_singleton_self e, rfl⟩⟩

end Window

end Organic

/-! ## The static scorer -/

namespace StaticScoring

open Contract
open Scoring (ExactMeans MinerMean)
open StaticIndex (AuthenticatedIndex StaticDeploymentTarget StaticEndpointTarget)
open StaticProbe

/-- The sample of an endpoint's row. -/
def StaticEndpointTally.sample (t : StaticEndpointTally) : Scoring.Sample where
  miner := toLex (t.minerUID, t.minerHotkey)
  successes := t.successes
  attempts := t.attempts

/-- The eligible endpoints of the epochs, as samples. -/
def samplesOf (epochs : List StaticEpochScore) : List Scoring.Sample :=
  epochs.flatMap fun e => (e.endpoints.filter fun t => t.disposition = .eligible).map StaticEndpointTally.sample

section Epoch

variable {ed25519 : String → String → List UInt8 → Bool} {targets : List StaticDeploymentTarget}
  {indexes : List AuthenticatedIndex} {abstentions : List StaticIndexAbstention}
  {observations : List StaticProbeObservation} {policy : EpochPolicy} {record : StaticEpochScore}
  {items : List Incarnation} {values : List StaticProbeObservation}

/-- An action takes the trust away for a fraud, and for nothing else. -/
lemma trustZero_action {j : Judgement} {tally : Tally} {action : StaticEndpointAction}
    (h : j.action tally = some action) : action.endpointID = tally.endpoint.endpointID ∧
      (action.trustZero = true ↔ tally.frauds ≠ []) ∧
      (tally.frauds ≠ [] → action.reason = .attestationFraud) := by
  rw [Judgement.action, Option.ite_none_right_eq_some] at h
  obtain ⟨-, h⟩ := h
  obtain rfl := Option.some.inj h
  exact ⟨rfl, decide_eq_true_iff, fun hfrauds => if_pos hfrauds⟩

lemma frauds_ne_nil {item : Incarnation} : (tallyOf values item).frauds ≠ [] ↔
    ∃ o ∈ values, o.endpointID = item.id ∧ o.attestationStatus = .fraudulent := by
  rw [Tally.frauds, ne_eq, List.map_eq_nil_iff, List.filter_eq_nil_iff]
  push Not
  constructor
  · rintro ⟨o, ho, hfraud⟩
    obtain ⟨hmem, hid⟩ := mem_ofEndpoint.mp ho
    exact ⟨o, hmem, hid, of_decide_eq_true hfraud⟩
  · rintro ⟨o, ho, hid, hfraud⟩
    exact ⟨o, mem_ofEndpoint.mpr ⟨ho, hid⟩, decide_eq_true hfraud⟩

/-- The actions of a summary are those of its endpoints. -/
lemma mem_endpointActions {indexed : Dict String (String × String)} {abstained : Dict String AbstentionRecordCode}
    {minAttempts : ℤ} {action : StaticEndpointAction}
    (h : action ∈ (summarize indexed abstained minAttempts (talliesOf items values)).endpointActions) :
    ∃ item ∈ items, (judgementOf indexed minAttempts items values).action (tallyOf values item) = some action := by
  obtain ⟨tally, htally, haction⟩ := List.mem_filterMap.mp h
  rw [ordered_talliesOf] at htally
  obtain ⟨item, hitem, rfl⟩ := List.mem_map.mp htally
  exact ⟨item, Sorting.mem_sortOn.mp hitem, haction⟩

/-- **A fraudulent observation is in the evidence once, and its endpoint is not trusted any more**, whatever
the status of the epoch; no other endpoint loses its trust.

**Proof sketch.** The evidence is that of the fraudulent observations, whose digests are distinct. An endpoint
with a fraud has an action, and the action of an endpoint is its only one. -/
theorem fraud_of_scoreStaticEpoch
    (h : scoreStaticEpoch ed25519 targets indexes abstentions observations policy = .ok record) :
    (∀ o ∈ observations, o.attestationStatus = .fraudulent →
      (record.fraudEvidence.filter fun row => row.observationDigestSha256 = o.observationDigestSha256) =
        [evidenceRow o] ∧
      ∃ action, (record.endpointActions.filter fun a => a.endpointID = o.endpointID) = [action] ∧
        action.trustZero = true ∧ action.reason = .attestationFraud) ∧
    ∀ action ∈ record.endpointActions, action.trustZero = true →
      ∃ o ∈ observations, o.attestationStatus = .fraudulent ∧ o.endpointID = action.endpointID := by
  obtain ⟨-, hobservations⟩ := mem_evidenceOf targets indexes abstentions observations
  obtain ⟨hbound, hrecord, -⟩ := of_scoreStaticEpoch h
  generalize evidenceOf targets indexes abstentions observations = v at hbound hrecord hobservations
  subst hrecord
  constructor
  · intro o ho hfraud
    have hin := (hobservations o).mpr ho
    have hnodup : ((v.observations.filter fun o => o.attestationStatus = .fraudulent).map
        StaticProbeObservation.observationDigestSha256).Nodup :=
      hbound.digests.sublist (List.filter_sublist.map _)
    refine ⟨filter_evidence (fraudEvidence_perm v.indexed v.abstained policy.minAttempts hbound) hnodup
      (List.mem_filter.mpr ⟨hin, decide_eq_true hfraud⟩), ?_⟩
    obtain ⟨item, hitem, hof⟩ := hbound.incarnation o hin
    have hfrauds : (tallyOf v.observations item).frauds ≠ [] :=
      frauds_ne_nil.mpr ⟨o, hin, hof.1.symm, hfraud⟩
    have hone : ((summarize v.indexed v.abstained policy.minAttempts
        (talliesOf (incarnations v.targets) v.observations)).endpointActions.filter
          fun action => action.endpointID = item.id) =
        ((judgementOf v.indexed policy.minAttempts (incarnations v.targets) v.observations).action
          (tallyOf v.observations item)).toList :=
      filter_endpointActions v.indexed v.abstained policy.minAttempts hbound.apart hitem
    obtain ⟨action, haction⟩ : ∃ action, (judgementOf v.indexed policy.minAttempts (incarnations v.targets)
        v.observations).action (tallyOf v.observations item) = some action :=
      ⟨_, if_pos (Or.inl hfrauds)⟩
    obtain ⟨-, htrust, hreason⟩ := trustZero_action haction
    refine ⟨action, ?_, htrust.mpr hfrauds, hreason hfrauds⟩
    rw [haction, hof.1] at hone
    exact hone
  · intro action hmem htrust
    obtain ⟨item, -, haction⟩ := mem_endpointActions hmem
    obtain ⟨hid, hiff, -⟩ := trustZero_action haction
    obtain ⟨o, ho, hend, hfraud⟩ := frauds_ne_nil.mp (hiff.mp htrust)
    exact ⟨o, (hobservations o).mp ho, hfraud, hend.trans hid.symm⟩

end Epoch

section Window

variable {epochs : List StaticEpochScore} {s : StaticAvailabilityScore}

/-- The evidence of a window is that of its epochs. -/
lemma evidence_window (h : aggregateStaticWindow epochs = .ok s) :
    s.fraudEvidence.Perm (epochs.flatMap fun e => e.fraudEvidence) ∧
      s.contentFaultEvidence.Perm (epochs.flatMap fun e => e.contentFaultEvidence) := by
  obtain ⟨-, -, -, e, -, rfl⟩ := aggregateStaticWindow_eq_ok.mp h
  have hperm := sortedEpochs_perm epochs
  exact ⟨(Sorting.sortOn_perm _ _).trans (hperm.flatMap_right _),
    (Sorting.sortOn_perm _ _).trans (hperm.flatMap_right _)⟩

/-- **The counters of a miner count the rows of evidence that name its hotkey.** -/
theorem counters_window (h : aggregateStaticWindow epochs = .ok s) {m : StaticMinerAvailability}
    (hm : m ∈ s.miners) :
    (m.fraudulentAttestations = s.fraudEvidence.countP fun row => row.minerHotkey = m.minerHotkey) ∧
      m.contentFaults = s.contentFaultEvidence.countP fun row => row.minerHotkey = m.minerHotkey := by
  obtain ⟨-, -, -, e, -, rfl⟩ := aggregateStaticWindow_eq_ok.mp h
  obtain ⟨mean, -, rfl⟩ := List.mem_map.mp hm
  have hcount : ∀ rows : List StaticEvidenceRef, ((counters rows).get mean.minerHotkey).getD 0 =
      (Sorting.sortOn StaticEvidenceRef.observationDigestSha256 rows).countP
        fun row => row.minerHotkey = mean.minerHotkey := by
    intro rows
    rw [(Sorting.sortOn_perm _ rows).countP_eq]
    exact Dict.getD_collect_count rows mean.minerHotkey
  exact ⟨hcount _, hcount _⟩

/-- The samples of the epochs are the eligible rows of their endpoints. -/
lemma samplesOf_eq (epochs : List StaticEpochScore) : samplesOf epochs =
    ((endpointsOf epochs).filter fun t => t.view.eligible).map StaticEndpointTally.sample := by
  rw [samplesOf, endpointsOf, List.filter_flatMap, List.map_flatMap]
  rfl

/-- **The means of a window are exact.** -/
theorem means_window (h : aggregateStaticWindow epochs = .ok s) :
    ExactMeans (samplesOf epochs) (s.miners.map fun m => m.toMinerMean) := by
  obtain ⟨hwindowed, -, -, e, -, rfl⟩ := aggregateStaticWindow_eq_ok.mp h
  have hmeans : (windowOf e epochs).miners.map (fun m => m.toMinerMean) =
      Scoring.windowMiners (rowsOf (sortedEpochs epochs)) := by
    rw [windowOf, windowRecord, List.map_map]
    exact List.map_id _
  have hperm := sortedEpochs_perm epochs
  have hsamples : (samplesOf (sortedEpochs epochs)).Perm (samplesOf epochs) := hperm.flatMap_right _
  rw [hmeans]
  refine ExactMeans.perm hsamples ?_
  rw [samplesOf_eq]
  apply Scoring.exactMeans_windowMiners
  · intro t _
    rfl
  · intro t ht helig
    obtain ⟨e, he, ht⟩ := List.mem_flatMap.mp ht
    have hvalid := hwindowed.epochsValid e (hperm.mem_iff.mp he)
    exact (hvalid.availability ht (of_decide_eq_true helig)).2

/-- An epoch that is not scored has no sample. -/
lemma samplesOf_not_scored {e : StaticEpochScore} (h : e.Valid) (hstatus : e.epochStatus ≠ .scored) :
    samplesOf [e] = [] := by
  rw [samplesOf, List.flatMap_singleton, List.map_eq_nil_iff, List.filter_eq_nil_iff]
  intro t ht helig
  exact h.not_eligible hstatus ht (of_decide_eq_true helig)

/-- The miners of a window are no more than its endpoints. -/
lemma length_windowMiners_le (epochs : List StaticEpochScore) :
    (Scoring.windowMiners (rowsOf epochs)).length ≤ (endpointsOf epochs).length := by
  rw [Scoring.windowMiners, List.length_map]
  refine Sorting.length_sortedSet_le.trans ?_
  rw [List.length_map, Scoring.eligibleRows]
  refine (List.length_filter_le _ _).trans ?_
  rw [rowsOf, List.length_map]

/-- A sealed epoch alone is a window. -/
lemma aggregateStaticWindow_singleton {e : StaticEpochScore} (h : e.Valid) :
    ∃ s, aggregateStaticWindow [e] = .ok s := by
  have hfew : 1 ≤ Organic.maxEpochs := by decide
  have hwindowed : Windowed [e] := by
    refine ⟨List.forall_mem_singleton.mpr h, List.cons_ne_nil _ _, hfew, List.nodup_singleton _, ?_, ?_, ?_⟩
    · simp
    · simp
    · simp
  have hone : Dict.OneToOne (identitiesOf [e]) := by
    refine h.derived.1.2.mono fun pair hpair => ?_
    obtain ⟨t, ht, rfl⟩ := List.mem_map.mp hpair
    obtain ⟨e', he', ht⟩ := List.mem_flatMap.mp ht
    rw [List.mem_singleton.mp he'] at ht
    obtain ⟨item, hitem, rfl⟩ := h.mem_endpoints ht
    exact List.mem_map.mpr ⟨item, hitem, rfl⟩
  have hfits : WindowFits [e] := by
    obtain ⟨-, -, -, -, -, -, -, -, -, -, -, hendpoints, hfaults, hfrauds, -⟩ := h.1
    refine ⟨(length_windowMiners_le [e]).trans ?_, ?_, ?_⟩
    · rw [endpointsOf, List.flatMap_singleton]
      exact hendpoints.1
    · rw [faultRows, List.flatMap_singleton]
      exact hfaults.1
    · rw [fraudRows, List.flatMap_singleton]
      exact hfrauds.1
  exact ⟨_, aggregateStaticWindow_eq_ok.mpr ⟨hwindowed, hone, hfits, e, List.mem_singleton_self e, rfl⟩⟩

end Window

end StaticScoring

/-! ## Both scorers -/

namespace Scoring

open StaticIndex (AuthenticatedIndex StaticDeploymentTarget)
open StaticProbe (StaticProbeObservation)
open StaticScoring (evidenceRow)
open Organic (fraudRow)

/-- **Fraud surfaces.** In a static epoch, whatever its status, each fraudulent observation is in the evidence
exactly once and its endpoint has one action, which takes the trust away for a fraud; no other endpoint loses
its trust. A static window has the evidence of its epochs, each row as often as they have it, and a miner's
counters count the rows that name its hotkey. The same holds of the organic scorer and its fraud evidence. -/
theorem fraud_surfaces (ed25519 : String → String → List UInt8 → Bool) :
    (∀ (targets : List StaticDeploymentTarget) (indexes : List AuthenticatedIndex)
        (abstentions : List StaticScoring.StaticIndexAbstention) (observations : List StaticProbeObservation)
        (policy : StaticScoring.EpochPolicy) (record : StaticScoring.StaticEpochScore),
      StaticScoring.scoreStaticEpoch ed25519 targets indexes abstentions observations policy = .ok record →
      (∀ o ∈ observations, o.attestationStatus = .fraudulent →
        (record.fraudEvidence.filter fun row => row.observationDigestSha256 = o.observationDigestSha256) =
          [evidenceRow o] ∧
        ∃ action, (record.endpointActions.filter fun a => a.endpointID = o.endpointID) = [action] ∧
          action.trustZero = true ∧ action.reason = .attestationFraud) ∧
      ∀ action ∈ record.endpointActions, action.trustZero = true →
        ∃ o ∈ observations, o.attestationStatus = .fraudulent ∧ o.endpointID = action.endpointID) ∧
    (∀ (epochs : List StaticScoring.StaticEpochScore) (s : StaticScoring.StaticAvailabilityScore),
      StaticScoring.aggregateStaticWindow epochs = .ok s →
      s.fraudEvidence.Perm (epochs.flatMap fun e => e.fraudEvidence) ∧
      s.contentFaultEvidence.Perm (epochs.flatMap fun e => e.contentFaultEvidence) ∧
      ∀ m ∈ s.miners,
        (m.fraudulentAttestations = s.fraudEvidence.countP fun row => row.minerHotkey = m.minerHotkey) ∧
        m.contentFaults = s.contentFaultEvidence.countP fun row => row.minerHotkey = m.minerHotkey) ∧
    (∀ (manifests : List Organic.ActiveAssignmentManifestV2)
        (observations : List Organic.OrganicProbeObservation) (policy : Organic.EpochPolicy)
        (corroboration : List Organic.ServingCorroboration) (record : Organic.OrganicEpochScore),
      Organic.scoreOrganicEpoch ed25519 manifests observations policy corroboration = .ok record →
      ∀ o ∈ observations, o.attestationStatus = .fraudulent →
        (record.fraudEvidence.filter fun row => row.observationDigestSha256 = o.observationDigestSha256) =
          [fraudRow o]) ∧
    ∀ (epochs : List Organic.OrganicEpochScore) (s : Organic.OrganicAvailabilityScore),
      Organic.aggregateOrganicWindow epochs = .ok s →
      s.fraudEvidence.Perm (epochs.flatMap fun e => e.fraudEvidence) ∧
      ∀ m ∈ s.miners,
        m.fraudulentAttestations = s.fraudEvidence.countP fun row => row.minerHotkey = m.minerHotkey := by
  refine ⟨?_, ?_, ?_, ?_⟩
  · intro targets indexes abstentions observations policy record h
    exact StaticScoring.fraud_of_scoreStaticEpoch h
  · intro epochs s h
    obtain ⟨hfraud, hfaults⟩ := StaticScoring.evidence_window h
    exact ⟨hfraud, hfaults, fun m hm => StaticScoring.counters_window h hm⟩
  · intro manifests observations policy corroboration record h o ho hfraud
    exact Organic.fraud_of_scoreOrganicEpoch h ho hfraud
  · intro epochs s h
    exact ⟨Organic.fraudEvidence_window h, fun m hm => Organic.frauds_window h hm⟩

/-- The sample epochs and their windows. -/
theorem fraud_surfaces_sample :
    (∃ record, StaticScoring.scoreStaticEpoch (fun _ _ _ => false)
        [StaticScoring.Sample.pair, StaticScoring.Sample.trio]
        [StaticScoring.Sample.index StaticScoring.Sample.pair, StaticScoring.Sample.index StaticScoring.Sample.trio]
        [] (StaticScoring.Sample.run 500) StaticScoring.Sample.policy = .ok record ∧
      (∀ action ∈ record.endpointActions, action.trustZero = true → ∃ o ∈ StaticScoring.Sample.run 500,
        o.attestationStatus = .fraudulent ∧ o.endpointID = action.endpointID) ∧
      ∃ s, StaticScoring.aggregateStaticWindow [record] = .ok s ∧
        s.contentFaultEvidence.Perm ([record].flatMap fun e => e.contentFaultEvidence)) ∧
    ∃ record, Organic.scoreOrganicEpoch (fun _ _ _ => false) [Organic.Sample.manifest]
        [Organic.Sample.observation] Organic.Sample.policy [] = .ok record ∧
      (∀ o ∈ [Organic.Sample.observation], o.attestationStatus = .fraudulent →
        (record.fraudEvidence.filter fun row => row.observationDigestSha256 = o.observationDigestSha256) =
          [fraudRow o]) ∧
      ∃ s, Organic.aggregateOrganicWindow [record] = .ok s ∧
        s.fraudEvidence.Perm ([record].flatMap fun e => e.fraudEvidence) := by
  obtain ⟨hstatic, hstaticWindow, horganic, horganicWindow⟩ := fraud_surfaces fun _ _ _ => false
  constructor
  · have hscored := StaticScoring.Sample.scored (List.mem_cons_of_mem 404 (List.mem_singleton_self 500))
    obtain ⟨s, hs⟩ := StaticScoring.aggregateStaticWindow_singleton (StaticScoring.of_scoreStaticEpoch hscored).2.2
    exact ⟨_, hscored, (hstatic _ _ _ _ _ _ hscored).2, s, hs, (hstaticWindow _ _ hs).2.1⟩
  · have hscored := Organic.scoreOrganicEpoch_eq_ok.mpr
      ⟨Organic.Sample.scorable, by simp, Organic.Sample.fits_nil, rfl⟩
    obtain ⟨s, hs⟩ := Organic.aggregateOrganicWindow_singleton (Organic.valid_of_scoreOrganicEpoch hscored)
    exact ⟨_, hscored, horganic _ _ _ _ _ hscored, s, hs, (horganicWindow _ _ hs).1⟩

/-- **The means of a window are exact**, in both scorers: the miners listed are those with an eligible endpoint
in some epoch, and each has the arithmetic mean over its eligible endpoints; an epoch that is not scored has
none. A window that meets the other preconditions is refused for an identity conflict if and only if UIDs and
hotkeys are not paired one to one over all endpoints of all epochs. -/
theorem window_means_exact :
    (∀ (epochs : List Organic.OrganicEpochScore) (s : Organic.OrganicAvailabilityScore),
      Organic.aggregateOrganicWindow epochs = .ok s →
      ExactMeans (Organic.samplesOf epochs) (s.miners.map fun m => m.toMinerMean) ∧
      ∀ e ∈ epochs, e.epochStatus ≠ .scored → Organic.samplesOf [e] = []) ∧
    (∀ epochs : List Organic.OrganicEpochScore, Organic.Windowed epochs →
      (Organic.aggregateOrganicWindow epochs = .error (.scoring .identityConflict) ↔
        ¬ Dict.OneToOne (Organic.identitiesOf epochs))) ∧
    (∀ (epochs : List StaticScoring.StaticEpochScore) (s : StaticScoring.StaticAvailabilityScore),
      StaticScoring.aggregateStaticWindow epochs = .ok s →
      ExactMeans (StaticScoring.samplesOf epochs) (s.miners.map fun m => m.toMinerMean) ∧
      ∀ e ∈ epochs, e.epochStatus ≠ .scored → StaticScoring.samplesOf [e] = []) ∧
    ∀ epochs : List StaticScoring.StaticEpochScore, StaticScoring.Windowed epochs →
      (StaticScoring.aggregateStaticWindow epochs = .error (.scoring .identityConflict) ↔
        ¬ Dict.OneToOne (StaticScoring.identitiesOf epochs)) := by
  refine ⟨?_, ?_, ?_, ?_⟩
  · intro epochs s h
    obtain ⟨hwindowed, -⟩ := Organic.aggregateOrganicWindow_eq_ok.mp h
    exact ⟨Organic.means_window h, fun e he hstatus =>
      Organic.samplesOf_not_scored (hwindowed.epochsValid e he) hstatus⟩
  · intro epochs h
    exact Organic.aggregateOrganicWindow_conflict h
  · intro epochs s h
    obtain ⟨hwindowed, -⟩ := StaticScoring.aggregateStaticWindow_eq_ok.mp h
    exact ⟨StaticScoring.means_window h, fun e he hstatus =>
      StaticScoring.samplesOf_not_scored (hwindowed.epochsValid e he) hstatus⟩
  · intro epochs h
    exact StaticScoring.aggregateStaticWindow_conflict h

/-- The windows of the sample epochs. -/
theorem window_means_exact_sample :
    (∃ record s, StaticScoring.scoreStaticEpoch (fun _ _ _ => false)
        [StaticScoring.Sample.pair, StaticScoring.Sample.trio]
        [StaticScoring.Sample.index StaticScoring.Sample.pair, StaticScoring.Sample.index StaticScoring.Sample.trio]
        [] (StaticScoring.Sample.run 500) StaticScoring.Sample.policy = .ok record ∧
      StaticScoring.aggregateStaticWindow [record] = .ok s ∧
      ExactMeans (StaticScoring.samplesOf [record]) (s.miners.map fun m => m.toMinerMean) ∧
      Dict.OneToOne (StaticScoring.identitiesOf [record])) ∧
    ∃ record s, Organic.scoreOrganicEpoch (fun _ _ _ => false) [Organic.Sample.manifest]
        [Organic.Sample.observation] Organic.Sample.policy [] = .ok record ∧
      Organic.aggregateOrganicWindow [record] = .ok s ∧
      ExactMeans (Organic.samplesOf [record]) (s.miners.map fun m => m.toMinerMean) ∧
      Dict.OneToOne (Organic.identitiesOf [record]) := by
  obtain ⟨horganic, horganicConflict, hstatic, hstaticConflict⟩ := window_means_exact
  constructor
  · have hscored := StaticScoring.Sample.scored (List.mem_cons_of_mem 404 (List.mem_singleton_self 500))
    obtain ⟨s, hs⟩ := StaticScoring.aggregateStaticWindow_singleton (StaticScoring.of_scoreStaticEpoch hscored).2.2
    have hone := (hstaticConflict _ (StaticScoring.aggregateStaticWindow_eq_ok.mp hs).1).not.mp
      (by rw [hs]; exact nofun)
    exact ⟨_, s, hscored, hs, (hstatic _ _ hs).1, not_not.mp hone⟩
  · have hscored := Organic.scoreOrganicEpoch_eq_ok.mpr
      ⟨Organic.Sample.scorable, by simp, Organic.Sample.fits_nil, rfl⟩
    obtain ⟨s, hs⟩ := Organic.aggregateOrganicWindow_singleton (Organic.valid_of_scoreOrganicEpoch hscored)
    have hone := (horganicConflict _ (Organic.aggregateOrganicWindow_eq_ok.mp hs).1).not.mp
      (by rw [hs]; exact nofun)
    exact ⟨_, s, hscored, hs, (horganic _ _ hs).1, not_not.mp hone⟩

end Scoring

end Misscomputer
