import Misscomputer.Static.Charges

set_option relaxedAutoImplicit false
set_option autoImplicit false

/-!
# The static epochs that can be sealed

The record of an epoch is checked against its own contract before it is returned. Of the checks of that
contract only a few can fail on evidence that was admitted; the others hold because every row, every piece of
evidence and every action is made of admitted values.

## Main definitions

* `StaticScoring.Measured` — observations of valid targets, at most sixteen to an endpoint.
* `StaticScoring.Fits` — the checks of the record that admission does not make.

## Main results

* `StaticScoring.scoreStaticEpoch_eq_ok_iff` — exactly when an epoch is scored, and with which record.

## References

* `src/misscomputer_subnet/static_scoring.py` (`StaticEpochScore`, `score_static_epoch`)
-/

namespace Misscomputer

namespace StaticScoring

open Contract
open StaticIndex (AuthenticatedIndex StaticDeploymentTarget StaticEndpointTarget)
open StaticProbe

/-- Observations of valid targets, at most sixteen to an endpoint. -/
structure Measured (items : List Incarnation) (values : List StaticProbeObservation) : Prop
    extends Bound items values where
  targets : ∀ item ∈ items, item.1.Valid ∧ item.2 ∈ item.1.endpoints
  few : ∀ endpoint, (ofEndpoint values endpoint).length ≤ maxAttemptsPerEndpoint

section Rows

variable {items : List Incarnation} {values : List StaticProbeObservation} {item : Incarnation}
  {o : StaticProbeObservation}

lemma maxAttempts_le : maxAttemptsPerEndpoint ≤ maxObservations := by decide

/-- The names of a valid incarnation. -/
lemma Measured.names (h : Measured items values) (hitem : item ∈ items) :
    dnsLabel item.1.deploymentID = true ∧ Contract.endpointID item.id = true ∧
      uid item.2.minerUID = true ∧ hotkey item.2.minerHotkey = true ∧ sha256Digest item.1.siteDigest = true := by
  obtain ⟨hdeployment, hendpoint⟩ := h.targets item hitem
  obtain ⟨hid, -, huid, hhotkey, -⟩ := hdeployment.2.2.2.2.2.2.1 item.2 hendpoint
  exact ⟨hdeployment.1, hid, huid, hhotkey, hdeployment.2.2.1⟩

/-- Nothing is counted more than sixteen times. -/
lemma Measured.counted_le (h : Measured items values) (item : Incarnation)
    (suspects : List StaticSuspectRequest) :
    ((tallyOf values item).counted suspects).length ≤ maxAttemptsPerEndpoint :=
  (List.length_filter_le _ _).trans (h.few item.id)

/-- **The row of an endpoint is a value of its contract.** -/
lemma Measured.row_valid (h : Measured items values) (hitem : item ∈ items) (j : Judgement)
    (hattempts : 1 ≤ j.minAttempts) : (j.row (tallyOf values item)).Valid := by
  obtain ⟨hdeployment, hid, huid, hhotkey, hsite⟩ := h.names hitem
  have hcounted := h.counted_le item j.suspects
  have hmax := maxAttempts_le
  have hseen := h.few item.id
  have hcount : ∀ p : StaticProbeObservation → Bool,
      ((tallyOf values item).counted j.suspects).countP p ≤ maxObservations := by
    intro p
    have hle : ((tallyOf values item).counted j.suspects).countP p ≤ _ := List.countP_le_length
    omega
  have hfaults : ((tallyOf values item).faults j.suspects).length ≤ maxObservations := by
    rw [Tally.faults, List.length_map]
    have := List.length_filter_le (fun o => o.quarantineCandidate) ((tallyOf values item).counted j.suspects)
    omega
  have hfrauds : (tallyOf values item).frauds.length ≤ maxObservations := by
    rw [Tally.frauds, List.length_map]
    have hle := List.length_filter_le (fun o : StaticProbeObservation => o.attestationStatus = .fraudulent)
      (ofEndpoint values item.id)
    change (List.filter _ (ofEndpoint values item.id)).length ≤ _
    omega
  have hratio : j.disposition (tallyOf values item) = .eligible →
      (mkRat ((tallyOf values item).counts j.suspects .none)
        ((tallyOf values item).attempts j.suspects)).num.toNat ≤ maxObservations ∧
      (mkRat ((tallyOf values item).counts j.suspects .none)
        ((tallyOf values item).attempts j.suspects)).den ≤ maxObservations := by
    intro heligible
    have hpos : 0 < (tallyOf values item).attempts j.suspects := by
      by_contra hzero
      have hfew : ((tallyOf values item).attempts j.suspects : ℤ) < j.minAttempts := by omega
      rw [Judgement.disposition, if_pos hfew] at heligible
      split at heligible
      · cases heligible
      · split at heligible <;> cases heligible
    have hle := Organic.mkRat_le (a := (tallyOf values item).counts j.suspects .none) hpos
    refine ⟨hle.1.trans (hcount _), hle.2.trans ?_⟩
    rw [Tally.attempts]
    omega
  refine ⟨hdeployment, hid, hsite, huid, hhotkey, ?_, ?_, ?_⟩
  · simp only [Judgement.row, List.forall_mem_cons, List.not_mem_nil, false_implies, implies_true, and_true]
    refine ⟨?_, hcount _, hcount _, hcount _, hcount _, hcount _, hfaults, hfrauds⟩
    rw [count, Tally.attempts]
    omega
  · intro n hn
    obtain ⟨heligible, hn⟩ := Option.mem_ite_none_right.mp hn
    rw [← Option.some.inj hn]
    exact (hratio heligible).1
  · intro n hn
    obtain ⟨heligible, hn⟩ := Option.mem_ite_none_right.mp hn
    rw [← Option.some.inj hn]
    exact (hratio heligible).2

/-- A row of evidence is a value of its contract. -/
lemma evidenceRow_valid (h : o.Valid) : (evidenceRow o).Valid := by
  obtain ⟨⟨-, hdeployment, -, -, -, hendpoint, -, huid, hhotkey, -⟩, hdigest, -⟩ := h
  exact ⟨huid, hhotkey, hdeployment, hendpoint, hdigest⟩

/-- The digests held against an endpoint are those of some of its observations. -/
lemma mem_frauds {digest : String} (h : digest ∈ (tallyOf values item).frauds) :
    ∃ o ∈ values, o.observationDigestSha256 = digest := by
  obtain ⟨o, ho, rfl⟩ := List.mem_map.mp h
  exact ⟨o, (mem_ofEndpoint.mp (List.mem_filter.mp ho).1).1, rfl⟩

lemma mem_charged {digest : String} {j : Judgement} (h : digest ∈ j.charged (tallyOf values item)) :
    ∃ o ∈ values, o.observationDigestSha256 = digest := by
  rw [Judgement.charged] at h
  split at h
  · cases h
  · obtain ⟨o, ho, rfl⟩ := List.mem_map.mp (Sorting.mem_sortOn.mp h)
    exact ⟨o, (mem_ofEndpoint.mp (List.mem_filter.mp (List.mem_filter.mp ho).1).1).1, rfl⟩

/-- **The action against an endpoint is a value of its contract.** -/
lemma Measured.action_valid (h : Measured items values) (hitem : item ∈ items) (j : Judgement)
    {action : StaticEndpointAction} (haction : j.action (tallyOf values item) = some action) :
    action.Valid := by
  obtain ⟨hdeployment, hid, huid, hhotkey, -⟩ := h.names hitem
  have hcharged : (j.charged (tallyOf values item)).length ≤ maxAttemptsPerEndpoint := by
    rw [Judgement.charged]
    split
    · exact Nat.zero_le _
    · rw [Sorting.length_sortOn, Tally.faults, List.length_map]
      exact (List.length_filter_le _ _).trans (h.counted_le item j.suspects)
  have hfrauds : (tallyOf values item).frauds.length ≤ maxAttemptsPerEndpoint := by
    rw [Tally.frauds, List.length_map]
    exact (List.length_filter_le _ _).trans (h.few item.id)
  have hhex : ∀ o ∈ values, hex64 o.observationDigestSha256 = true := fun o ho => (h.valid o ho).2.1
  rw [Judgement.action] at haction
  by_cases hany : (tallyOf values item).frauds ≠ [] ∨ j.charged (tallyOf values item) ≠ []
  · rw [if_pos hany] at haction
    obtain rfl := Option.some.inj haction
    refine ⟨hdeployment, hid, huid, hhotkey, ?_, ?_⟩
    · dsimp only
      rw [Sorting.length_sortOn]
      by_cases hf : (tallyOf values item).frauds ≠ []
      · rw [if_pos hf]
        exact ⟨List.length_pos_of_ne_nil hf, hfrauds⟩
      · rw [if_neg hf]
        exact ⟨List.length_pos_of_ne_nil (hany.resolve_left hf), hcharged⟩
    · intro digest hdigest
      dsimp only at hdigest
      rw [Sorting.mem_sortOn] at hdigest
      by_cases hf : (tallyOf values item).frauds ≠ []
      · rw [if_pos hf] at hdigest
        obtain ⟨o, ho, rfl⟩ := mem_frauds hdigest
        exact hhex o ho
      · rw [if_neg hf] at hdigest
        obtain ⟨o, ho, rfl⟩ := mem_charged hdigest
        exact hhex o ho
  · rw [if_neg hany] at haction
    cases haction

/-- An alert about an endpoint is a value of its contract. -/
lemma Measured.alert_valid (h : Measured items values) (hitem : item ∈ items) {j : Judgement}
    {abstained : Dict String AbstentionRecordCode} {alert : StaticAlert}
    (halert : alert ∈ j.alerts (tallyOf values item) abstained) : alert.Valid := by
  obtain ⟨hdeployment, hid, -⟩ := h.names hitem
  rw [Judgement.alerts, List.mem_append] at halert
  rcases halert with habstain | hcoded
  · split at habstain
    · obtain ⟨code, -, rfl⟩ := List.mem_map.mp habstain
      exact ⟨fun d hd => Option.some.inj hd ▸ hdeployment, fun e he => absurd he (Option.some_ne_none e).symm⟩
    · cases habstain
  · obtain ⟨entry, -, rfl⟩ := List.mem_map.mp hcoded
    exact ⟨fun d hd => Option.some.inj hd ▸ hdeployment, fun e he => Option.some.inj he ▸ hid⟩

/-- A request that was made is a value of its contract. -/
lemma request_valid (h : o.Valid) : (request o).Valid := by
  obtain ⟨⟨-, hdeployment, -, -, -, -, -, -, -, -, -, hpath, -⟩, -⟩ := h
  have hpath : healthPath o.requestPath = true := hpath
  rw [healthPath, Bool.and_eq_true] at hpath
  refine ⟨hdeployment, ?_, of_decide_eq_true hpath.1⟩
  change 1 ≤ o.requestPath.toList.length
  cases hlist : o.requestPath.toList with
  | nil =>
    rw [hlist] at hpath
    cases hpath.2
  | cons c l => simp

end Rows

/-! ## The record -/

section Record

variable {ed25519 : String → String → List UInt8 → Bool} {targets : List StaticDeploymentTarget}
  {indexes : List AuthenticatedIndex} {abstentions : List StaticIndexAbstention}
  {observations : List StaticProbeObservation} {policy : EpochPolicy} {record : StaticEpochScore}

/-- What the record says of the evidence. -/
def derivedOf (policy : EpochPolicy) (v : Evidence) : StaticDerived :=
  summarize v.indexed v.abstained policy.minAttempts (talliesOf (incarnations v.targets) v.observations)

/-- The checks of the record that admission does not make. -/
structure Fits (policy : EpochPolicy) (v : Evidence) : Prop where
  network : (policy.network, policy.netuid) ∈ networks
  validatorHotkey : hotkey policy.validatorHotkey = true
  epochIndex : 0 ≤ policy.epochIndex ∧ policy.epochIndex ≤ 2 ^ 62
  transportDigest : ∀ p ∈ policy.publicTransportPolicy, hex64 p.policyDigestSha256 = true
  revocation : ∀ r ∈ policy.releaseRevocation, hex64 r.1 = true ∧ sha256Digest r.2 = true
  coverage : ∀ index ∈ v.indexes, (coverageRow policy.probeBodyCeiling v.observations index).Valid
  /-- Not more was covered than there is. -/
  covered : ∀ index ∈ v.indexes, (routeSizes index).sum ≥
      ((routeSizes index).filter fun size => size ≤ policy.probeBodyCeiling).sum ∧
    (probed v.observations (indexID index)).1 ≤ (routeSizes index).length
  alerts : (derivedOf policy v).alerts.length ≤ maxEndpoints * 4

/-- The targets have eight endpoints at most each. -/
lemma length_incarnations_le {targets : List StaticDeploymentTarget} (h : ∀ d ∈ targets, d.Valid) :
    (incarnations targets).length ≤ targets.length * 8 := by
  induction targets with
  | nil => exact Nat.le_refl _
  | cons d targets ih =>
    have hhead : d.endpoints.length ≤ 8 := (h d List.mem_cons_self).2.2.2.2.2.1.2
    have htail := ih fun d' hd' => h d' (List.mem_cons_of_mem _ hd')
    have hcons : (incarnations (d :: targets)).length = d.endpoints.length + (incarnations targets).length := by
      rw [incarnations, List.flatMap_cons, List.length_append, List.length_map]
      rfl
    rw [hcons, List.length_cons]
    omega

/-- **The derived fields are values of their contracts.** -/
lemma derived_valid {items : List Incarnation} {values : List StaticProbeObservation}
    (h : Measured items values) (hitems : items.length ≤ maxEndpoints) (hvalues : values.length ≤ maxObservations)
    (indexed : Dict String (String × String)) (abstained : Dict String AbstentionRecordCode) {minAttempts : ℤ}
    (hattempts : 1 ≤ minAttempts) :
    let derived := summarize indexed abstained minAttempts (talliesOf items values)
    (count derived.sampledEndpointCount ∧ count derived.pathUnavailableEndpointCount) ∧
      (derived.indexSuspectRequests.length ≤ maxObservations ∧ ∀ r ∈ derived.indexSuspectRequests, r.Valid) ∧
      (derived.endpoints.length ≤ maxEndpoints ∧ ∀ t ∈ derived.endpoints, t.Valid) ∧
      (derived.contentFaultEvidence.length ≤ maxObservations ∧ ∀ r ∈ derived.contentFaultEvidence, r.Valid) ∧
      (derived.fraudEvidence.length ≤ maxObservations ∧ ∀ r ∈ derived.fraudEvidence, r.Valid) ∧
      (derived.endpointActions.length ≤ maxEndpoints ∧ ∀ a ∈ derived.endpointActions, a.Valid) ∧
      ∀ a ∈ derived.alerts, a.Valid := by
  intro derived
  have hordered := ordered_talliesOf items values
  have hlength : (talliesOf items values).length = items.length := List.length_map _
  have hbig : maxEndpoints ≤ maxObservations := by decide
  have hsampled : (sampled (suspectRequests (talliesOf items values)) (talliesOf items values)).length ≤
      items.length := (List.length_filter_le _ _).trans hlength.le
  have hsuspect : ∀ r, r ∈ suspectRequests (talliesOf items values) → ∃ o ∈ values, request o = r :=
    fun r hr => h.mem_requests.mp (List.mem_filter.mp hr).1
  have hendpoints : derived.endpoints = (Sorting.sortOn Incarnation.id items).map fun item =>
      (judgementOf indexed minAttempts items values).row (tallyOf values item) := by
    change ((Sorting.sortOn Prod.fst (talliesOf items values)).map Prod.snd).map _ = _
    rw [hordered, List.map_map]
    rfl
  have hactions : derived.endpointActions = (Sorting.sortOn Incarnation.id items).filterMap fun item =>
      (judgementOf indexed minAttempts items values).action (tallyOf values item) := by
    change ((Sorting.sortOn Prod.fst (talliesOf items values)).map Prod.snd).filterMap _ = _
    rw [hordered, List.filterMap_map]
    rfl
  have hfraud := fraudEvidence_perm indexed abstained minAttempts h.toBound
  refine ⟨⟨?_, ?_⟩, ⟨?_, ?_⟩, ⟨?_, ?_⟩, ?_, ⟨?_, ?_⟩, ⟨?_, ?_⟩, ?_⟩
  · exact (hsampled.trans hitems).trans hbig
  · exact (List.countP_le_length.trans (hsampled.trans hitems)).trans hbig
  · change (Sorting.sortOn _ _).length ≤ _
    rw [Sorting.length_sortOn]
    refine (List.length_filter_le _ _).trans ?_
    have hsub : (requests (talliesOf items values)).length ≤ (values.map request).length := by
      refine (List.Nodup.subperm (List.nodup_dedup _) fun r hr => ?_).length_le
      obtain ⟨o, ho, rfl⟩ := h.mem_requests.mp hr
      exact List.mem_map_of_mem ho
    rw [List.length_map] at hsub
    exact hsub.trans hvalues
  · intro r hr
    obtain ⟨o, ho, rfl⟩ := hsuspect r (Sorting.mem_sortOn.mp hr)
    exact request_valid (h.valid o ho)
  · rw [hendpoints, List.length_map, Sorting.length_sortOn]
    exact hitems
  · rw [hendpoints]
    intro t ht
    obtain ⟨item, hitem, rfl⟩ := List.mem_map.mp ht
    exact h.row_valid (Sorting.mem_sortOn.mp hitem) _ hattempts
  · by_cases hcommon : (judgementOf indexed minAttempts items values).commonMode = false
    · have hperm := contentFaultEvidence_perm indexed abstained minAttempts h.toBound hcommon
      refine ⟨?_, fun r hr => ?_⟩
      · rw [hperm.length_eq, List.length_map]
        exact (List.length_filter_le _ _).trans hvalues
      · obtain ⟨o, ho, rfl⟩ := List.mem_map.mp (hperm.mem_iff.mp hr)
        exact evidenceRow_valid (h.valid o (List.mem_filter.mp ho).1)
    · have hnone : derived.contentFaultEvidence = [] := by
        have htrue : (judgementOf indexed minAttempts items values).commonMode = true := by simpa using hcommon
        change Sorting.sortOn _ (List.flatMap (fun tally => (Judgement.charged
          (judgementOf indexed minAttempts items values) tally).map tally.evidence) _) = []
        have hcharged : ∀ tally, Judgement.charged (judgementOf indexed minAttempts items values) tally = [] := by
          intro tally
          rw [Judgement.charged, if_pos htrue]
        simp only [hcharged, List.map_nil]
        rw [List.flatMap_eq_nil_iff.mpr fun _ _ => rfl]
        rfl
      rw [hnone]
      exact ⟨Nat.zero_le _, by simp⟩
  · rw [hfraud.length_eq, List.length_map]
    exact (List.length_filter_le _ _).trans hvalues
  · intro r hr
    obtain ⟨o, ho, rfl⟩ := List.mem_map.mp (hfraud.mem_iff.mp hr)
    exact evidenceRow_valid (h.valid o (List.mem_filter.mp ho).1)
  · rw [hactions]
    refine (List.length_filterMap_le _ _).trans ?_
    rw [Sorting.length_sortOn]
    exact hitems
  · rw [hactions]
    intro a ha
    obtain ⟨item, hitem, haction⟩ := List.mem_filterMap.mp ha
    exact h.action_valid (Sorting.mem_sortOn.mp hitem) _ haction
  · intro a ha
    have ha := List.mem_dedup.mp (Sorting.mem_sortOn.mp ha)
    rw [List.mem_append, List.mem_append] at ha
    rcases ha with (hendpoint | hdown) | hsuspected
    · obtain ⟨tally, htally, hmem⟩ := List.mem_flatMap.mp hendpoint
      rw [hordered] at htally
      obtain ⟨item, hitem, rfl⟩ := List.mem_map.mp htally
      exact h.alert_valid (Sorting.mem_sortOn.mp hitem) hmem
    · split at hdown
      · obtain rfl := List.mem_singleton.mp hdown
        exact ⟨by simp, by simp⟩
      · cases hdown
    · obtain ⟨r, hr, rfl⟩ := List.mem_map.mp hsuspected
      obtain ⟨o, ho, rfl⟩ := hsuspect r hr
      have hname := (request_valid (h.valid o ho)).1
      exact ⟨fun d hd => Option.some.inj hd ▸ hname, fun e he => absurd he (Option.some_ne_none e).symm⟩

/-- What the loop over the targets and the bound on attempts ask of the evidence. -/
def Countable (v : Evidence) : Prop :=
  Apart (incarnations v.targets) ∧
    ∀ endpoint, (ofEndpoint v.observations endpoint).length ≤ maxAttemptsPerEndpoint

variable {v : Evidence}

/-- Admitted observations of few attempts are those that are tallied. -/
lemma Admissible.tallied_iff (h : Admissible ed25519 targets indexes abstentions observations policy)
    (hv : v = evidenceOf targets indexes abstentions observations) :
    (Apart (incarnations v.targets) ∧ Tallied (incarnations v.targets) v.indexed policy.epochSeconds
      policy.epochIndex v.observations) ↔ Countable v := by
  subst hv
  obtain ⟨htargets, hobservations⟩ := mem_evidenceOf targets indexes abstentions observations
  constructor
  · rintro ⟨hapart, -, hfew⟩
    exact ⟨hapart, hfew⟩
  · rintro ⟨hapart, hfew⟩
    refine ⟨hapart, fun o ho => ?_, hfew⟩
    obtain ⟨-, -, hepoch, -, index, hindex, hid, hverify⟩ := h.judged.1 o ((hobservations o).mp ho)
    obtain ⟨⟨endpoint, hendpoint, hend, -⟩, hrelease, htrust⟩ := of_verifyObservation hverify
    refine ⟨hepoch, List.mem_map.mpr ⟨(index.target, endpoint), mem_incarnations.mpr ⟨?_, hendpoint⟩, hend⟩, ?_⟩
    · exact (htargets _).mpr (h.verified.1 index hindex)
    · have hkeys : (evidenceOf targets indexes abstentions observations).indexed.keys.Nodup := by
        rw [Dict.keys, Evidence.indexed, List.map_map]
        exact ((Sorting.sortOn_perm indexID indexes).map indexID).nodup_iff.mpr h.verified.2
      rw [← Dict.mem_iff_get hkeys, hrelease, htrust, ← hid]
      exact List.mem_map.mpr ⟨index, Sorting.mem_sortOn.mpr hindex, rfl⟩

/-- Admissible evidence that is countable is measured. -/
lemma Admissible.measured (h : Admissible ed25519 targets indexes abstentions observations policy)
    (hv : v = evidenceOf targets indexes abstentions observations) (hcountable : Countable v) :
    Measured (incarnations v.targets) v.observations ∧ (incarnations v.targets).length ≤ maxEndpoints := by
  subst hv
  obtain ⟨htargets, -⟩ := mem_evidenceOf targets indexes abstentions observations
  have hvalid : ∀ d ∈ (evidenceOf targets indexes abstentions observations).targets, d.Valid :=
    fun d hd => h.targetsValid d ((htargets d).mp hd)
  refine ⟨⟨h.bound hcountable.1, fun item hitem => ?_, hcountable.2⟩, ?_⟩
  · obtain ⟨hd, he⟩ := mem_incarnations.mp hitem
    exact ⟨hvalid _ hd, he⟩
  · have hlength : (evidenceOf targets indexes abstentions observations).targets.length ≤ targets.length := by
      rw [evidenceOf, Sorting.length_sortOn]
      exact (List.dedup_sublist targets).length_le
    have hfew := h.few.1
    have hitems := length_incarnations_le hvalid
    rw [maxEndpoints]
    omega

/-- Not more bodies were verified than paths probed. -/
lemma bodyVerified_le (values : List StaticProbeObservation) (deploymentID : String) :
    (probed values deploymentID).2.1 ≤ (probed values deploymentID).1 := by
  refine (List.Nodup.subperm (List.nodup_dedup _) fun path hpath => ?_).length_le
  obtain ⟨o, ho, rfl⟩ := List.mem_map.mp (List.mem_dedup.mp hpath)
  exact List.mem_dedup.mpr (List.mem_map_of_mem (List.mem_filter.mp ho).1)

/-- The purpose and the transport go with the version of the record. -/
lemma transportValid_epochRecord (h : Admissible ed25519 targets indexes abstentions observations policy)
    (hv : v = evidenceOf targets indexes abstentions observations) (hnetwork : (policy.network, policy.netuid) ∈
      networks) (derived : StaticDerived) : (epochRecord policy v derived).TransportValid := by
  obtain ⟨-, hobservations⟩ := mem_evidenceOf targets indexes abstentions observations
  have hcarried : ∀ o ∈ v.observations, o.schemaVersion =
        (if policy.publicTransportPolicy ≠ none then .framed else .direct) ∧
      o.transportPolicyDigestSha256 =
        policy.publicTransportPolicy.map StaticPublicTransportPolicy.policyDigestSha256 := by
    intro o ho
    rw [hv] at ho
    exact h.carried o ((hobservations o).mp ho)
  have hvalid : ∀ o ∈ v.observations, o.Valid := by
    intro o ho
    rw [hv] at ho
    exact h.observationsValid o ((hobservations o).mp ho)
  have hrows : ∀ row ∈ v.abstentions.map abstentionRow, policy.releaseRevocation = none →
      row.code ≠ .releaseRevoked := by
    intro row hrow hnone
    obtain ⟨a, ha, rfl⟩ := List.mem_map.mp hrow
    rw [hv] at ha
    exact h.revocable hnone a (Sorting.mem_sortOn.mp ha)
  have htransport := h.transport
  have hframed : (epochRecord policy v derived).Framed ↔ policy.publicTransportPolicy ≠ none := by
    change policy.version = .framed ∨ (policy.version = .revocationBound ∧
      decide (policy.publicTransportPolicy ≠ none) = true) ↔ _
    rw [decide_eq_true_iff, EpochPolicy.version]
    by_cases hrevocation : policy.releaseRevocation ≠ none <;>
      by_cases hpublic : policy.publicTransportPolicy ≠ none <;> simp_all
  have hversion : (epochRecord policy v derived).schemaVersion = .revocationBound ↔
      policy.releaseRevocation ≠ none := by
    change policy.version = .revocationBound ↔ _
    rw [EpochPolicy.version]
    by_cases hrevocation : policy.releaseRevocation ≠ none <;>
      by_cases hpublic : policy.publicTransportPolicy ≠ none <;> simp_all
  have hprofile : ∀ o ∈ v.observations, o.publicFraming = decide (policy.publicTransportPolicy ≠ none) := by
    intro o ho
    have hversion := (hcarried o ho).1
    have hprofile := (hvalid o ho).2.2.1.1
    rw [StaticProbeObservation.ProfileValid, hversion] at hprofile
    by_cases hpublic : policy.publicTransportPolicy ≠ none
    · rw [if_pos hpublic] at hprofile
      rw [hprofile.1, decide_eq_true hpublic]
    · rw [if_neg hpublic] at hprofile
      rw [hprofile.1, decide_eq_false hpublic]
  refine ⟨?_, ?_, ?_, ?_, ?_, ?_, ?_, hnetwork⟩
  · change (if policy.publicTransportPolicy = none then Purpose.scoring else .publicFraming) = _
    by_cases hpublic : policy.publicTransportPolicy = none
    · rw [if_pos hpublic, if_neg (by rw [hframed, not_not]; exact hpublic)]
    · rw [if_neg hpublic, if_pos (hframed.mpr hpublic)]
  · intro hnot
    have hnone : policy.publicTransportPolicy = none := by
      by_contra hpublic
      exact hnot (hframed.mpr hpublic)
    exact ⟨decide_eq_false (not_not.mpr hnone), by
      change policy.publicTransportPolicy.map _ = none
      rw [hnone]
      rfl⟩
  · intro hyes
    have hpublic := hframed.mp hyes
    refine ⟨decide_eq_true hpublic, ?_, htransport hpublic⟩
    change policy.publicTransportPolicy.map _ ≠ none
    simpa using hpublic
  · rw [hversion]
    change policy.releaseRevocation.map _ ≠ none ↔ _
    simp
  · rw [hversion]
    change policy.releaseRevocation.map _ ≠ none ↔ _
    simp
  · intro hnot row hrow
    refine hrows row hrow ?_
    by_contra hrevocation
    exact hnot (hversion.mpr hrevocation)
  · intro o ho
    refine ⟨(hcarried o ho).1.trans ?_, hprofile o ho, (hcarried o ho).2⟩
    by_cases hpublic : policy.publicTransportPolicy ≠ none
    · rw [if_pos hpublic, if_pos (hframed.mpr hpublic)]
    · rw [if_neg hpublic, if_neg (fun hyes => hpublic (hframed.mp hyes))]

/-- Names in canonical order, when they are distinct. -/
lemma eq_sortedSet_of_nodup {α : Type} {key : α → String} {l : List α} (h : (l.map key).Nodup) :
    (Sorting.sortOn key l).map key = Sorting.sortedSet ((Sorting.sortOn key l).map key) := by
  rw [Sorting.eq_sortedSet_iff]
  have hle : ((Sorting.sortOn key l).map key).Pairwise (· ≤ ·) :=
    List.pairwise_map.mpr (Sorting.pairwise_sortOn key l)
  have hnodup : ((Sorting.sortOn key l).map key).Nodup := ((Sorting.sortOn_perm key l).map key).nodup_iff.mpr h
  exact (hle.and hnodup).imp fun h => lt_of_le_of_ne h.1 h.2

/-- The targets and the states of their indexes are in canonical order. -/
lemma targetsValid_epochRecord (h : Admissible ed25519 targets indexes abstentions observations policy)
    (hv : v = evidenceOf targets indexes abstentions observations) (derived : StaticDerived) :
    (epochRecord policy v derived).TargetsValid := by
  have hids : (epochRecord policy v derived).targets = Sorting.sortOn StaticDeploymentTarget.deploymentID
      targets.dedup := by
    rw [hv]
    rfl
  have hcovered : (epochRecord policy v derived).coverage.map StaticDeploymentCoverage.deploymentID =
      (Sorting.sortOn indexID indexes).map indexID := by
    rw [hv]
    exact List.map_map
  have habstained : (epochRecord policy v derived).indexAbstentions.map StaticIndexAbstentionRow.deploymentID =
      (Sorting.sortOn StaticIndexAbstention.deploymentID abstentions).map StaticIndexAbstention.deploymentID := by
    rw [hv]
    exact List.map_map
  have hmem : ∀ d, d ∈ (epochRecord policy v derived).targets ↔ d ∈ targets := by
    intro d
    rw [hids, Sorting.mem_sortOn, List.mem_dedup]
  refine ⟨?_, ?_, ?_⟩
  · rw [hcovered, habstained, hids]
    refine ⟨eq_sortedSet_of_nodup (nodup_ids_dedup h.coherent), eq_sortedSet_of_nodup h.verified.2,
      eq_sortedSet_of_nodup h.abstained.2, ?_, ?_, ?_⟩
    · intro id hid hid'
      obtain ⟨index, hindex, rfl⟩ := List.mem_map.mp hid
      obtain ⟨row, hrow, hsame⟩ := List.mem_map.mp hid'
      refine (h.abstained.1 row (Sorting.mem_sortOn.mp hrow)).2 ?_
      rw [hsame]
      exact List.mem_map_of_mem (Sorting.mem_sortOn.mp hindex)
    · intro id hid
      rw [List.mem_append] at hid
      rcases hid with hid | hid
      · obtain ⟨index, hindex, rfl⟩ := List.mem_map.mp hid
        have htarget := h.verified.1 index (Sorting.mem_sortOn.mp hindex)
        exact List.mem_map.mpr ⟨index.target, Sorting.mem_sortOn.mpr (List.mem_dedup.mpr htarget), rfl⟩
      · obtain ⟨row, hrow, rfl⟩ := List.mem_map.mp hid
        obtain ⟨⟨d, hd, hsame, -⟩, -⟩ := h.abstained.1 row (Sorting.mem_sortOn.mp hrow)
        exact List.mem_map.mpr ⟨d, Sorting.mem_sortOn.mpr (List.mem_dedup.mpr hd), hsame⟩
    · intro id hid
      obtain ⟨d, hd, rfl⟩ := List.mem_map.mp hid
      have hd : d ∈ targets := List.mem_dedup.mp (Sorting.mem_sortOn.mp hd)
      rw [List.mem_append]
      refine (h.complete d hd).imp (fun hin => ?_) fun hin => ?_
      · exact ((Sorting.sortOn_perm indexID indexes).map indexID).mem_iff.mpr hin
      · exact ((Sorting.sortOn_perm StaticIndexAbstention.deploymentID abstentions).map _).mem_iff.mpr hin
  · intro row hrow d hd hid
    rw [hv] at hrow
    obtain ⟨index, hindex, rfl⟩ := List.mem_map.mp hrow
    have htarget := h.verified.1 index (Sorting.mem_sortOn.mp hindex)
    exact congrArg StaticDeploymentTarget.siteDigest (h.coherent index.target htarget d ((hmem d).mp hd) hid.symm)
  · intro row hrow d hd hid
    rw [hv] at hrow
    obtain ⟨a, ha, rfl⟩ := List.mem_map.mp hrow
    obtain ⟨⟨d', hd', hid', hsite⟩, -⟩ := h.abstained.1 a (Sorting.mem_sortOn.mp ha)
    have hsame : d' = d := h.coherent d' hd' d ((hmem d).mp hd) (hid'.trans hid.symm)
    rw [← hsame]
    exact hsite.symm

/-- The fields of the record that admission vouches for. -/
lemma fieldsValid_epochRecord (h : Admissible ed25519 targets indexes abstentions observations policy)
    (hv : v = evidenceOf targets indexes abstentions observations) (hcountable : Countable v)
    (hfits : Fits policy v) : (epochRecord policy v (derivedOf policy v)).FieldsValid := by
  obtain ⟨hmeasured, hitems⟩ := h.measured hv hcountable
  obtain ⟨htargets, hobservations⟩ := mem_evidenceOf targets indexes abstentions observations
  rw [← hv] at htargets hobservations
  have hvalues : v.observations.length ≤ maxObservations := by
    rw [hv]
    exact (Sorting.length_sortOn).trans_le h.few.2
  have hids : ∀ {ids : List String}, ids.Nodup → (∀ id ∈ ids, ∃ d ∈ targets, d.deploymentID = id) →
      ids.length ≤ maxDeployments := by
    intro ids hnodup hsub
    have hsubset : ids ⊆ targets.map StaticDeploymentTarget.deploymentID :=
      fun id hid => List.mem_map.mpr (hsub id hid)
    have hle := (hnodup.subperm hsubset).length_le
    rw [List.length_map] at hle
    exact hle.trans h.few.1
  have hnetid : policy.netuid ∈ [24, 581] := by
    have hnetwork := hfits.network
    simp only [networks, List.mem_cons, Prod.mk.injEq, List.not_mem_nil, or_false] at hnetwork ⊢
    exact hnetwork.imp And.right And.right
  obtain ⟨hcounts, hsuspects, hendpoints, hfaults, hfrauds, hactions, halerts⟩ :=
    derived_valid hmeasured hitems hvalues v.indexed v.abstained h.policyValid.2.1.1
  refine ⟨hnetid, hfits.validatorHotkey, h.policyValid.1, hfits.epochIndex, h.policyValid.2.1, h.policyValid.2.2,
    ⟨?_, fun d hd => h.targetsValid d ((htargets d).mp hd)⟩, ⟨?_, ?_⟩, ⟨?_, ?_⟩, hcounts, hsuspects, hendpoints,
    hfaults, hfrauds, hactions, ⟨hfits.alerts, halerts⟩,
    ⟨hvalues, fun o ho => h.observationsValid o ((hobservations o).mp ho)⟩, ?_, ?_, ?_, hex64_digest _,
    hex64_digest _⟩
  · change v.targets.length ≤ _
    rw [hv]
    exact (Sorting.length_sortOn).trans_le ((List.dedup_sublist targets).length_le.trans h.few.1)
  · change (v.indexes.map _).length ≤ _
    rw [List.length_map, hv]
    refine (Sorting.length_sortOn).trans_le ?_
    rw [← List.length_map indexID]
    refine hids h.verified.2 fun id hid => ?_
    obtain ⟨index, hindex, rfl⟩ := List.mem_map.mp hid
    exact ⟨index.target, h.verified.1 index hindex, rfl⟩
  · intro c hc
    obtain ⟨index, hindex, rfl⟩ := List.mem_map.mp hc
    exact hfits.coverage index hindex
  · change (v.abstentions.map _).length ≤ _
    rw [List.length_map, hv]
    refine (Sorting.length_sortOn).trans_le ?_
    rw [← List.length_map StaticIndexAbstention.deploymentID]
    refine hids h.abstained.2 fun id hid => ?_
    obtain ⟨row, hrow, rfl⟩ := List.mem_map.mp hid
    obtain ⟨⟨d, hd, hsame, -⟩, -⟩ := h.abstained.1 row hrow
    exact ⟨d, hd, hsame⟩
  · intro r hr
    obtain ⟨row, hrow, rfl⟩ := List.mem_map.mp hr
    rw [hv] at hrow
    obtain ⟨⟨d, hd, hid, hsite⟩, -⟩ := h.abstained.1 row (Sorting.mem_sortOn.mp hrow)
    have hvalid := h.targetsValid d hd
    refine ⟨?_, ?_, rfl⟩
    · change dnsLabel row.deploymentID = true
      rw [← hid]
      exact hvalid.1
    · change sha256Digest row.siteDigest = true
      rw [← hsite]
      exact hvalid.2.2.1
  · intro d hd
    obtain ⟨p, hp, rfl⟩ := Option.mem_map.mp hd
    exact hfits.transportDigest p hp
  · intro d hd
    obtain ⟨r, hr, rfl⟩ := Option.mem_map.mp hd
    exact (hfits.revocation r hr).1
  · intro d hd
    obtain ⟨r, hr, rfl⟩ := Option.mem_map.mp hd
    exact (hfits.revocation r hr).2

/-- **When the record of admitted evidence is a value of its contract.** -/
lemma epochRecord_valid_iff (h : Admissible ed25519 targets indexes abstentions observations policy)
    (hv : v = evidenceOf targets indexes abstentions observations) (hcountable : Countable v) :
    (epochRecord policy v (derivedOf policy v)).Valid ↔ Fits policy v := by
  constructor
  · rintro ⟨hfields, htransport, -, -, -, -, hcovered, -⟩
    obtain ⟨-, hhotkey, -, hindex, -, -, -, ⟨-, hcoverage⟩, -, -, -, -, -, -, -, ⟨halerts, -⟩, -, hpolicy, hrevoke,
      hsnapshot, -, -⟩ := hfields
    obtain ⟨-, -, -, -, -, -, -, hnetwork⟩ := htransport
    refine ⟨hnetwork, hhotkey, hindex, fun p hp => ?_, fun r hr => ⟨?_, ?_⟩, fun index hi => ?_,
      fun index hi => ⟨?_, ?_⟩, halerts⟩
    · exact hpolicy _ (Option.mem_map_of_mem _ hp)
    · exact hrevoke _ (Option.mem_map_of_mem _ hr)
    · exact hsnapshot _ (Option.mem_map_of_mem _ hr)
    · exact hcoverage _ (List.mem_map_of_mem hi)
    · exact (hcovered _ (List.mem_map_of_mem hi)).2.2.1
    · exact (hcovered _ (List.mem_map_of_mem hi)).2.2.2.1
  · intro hfits
    refine ⟨fieldsValid_epochRecord h hv hcountable hfits, transportValid_epochRecord h hv hfits.network _,
      targetsValid_epochRecord h hv _, ?_, ?_, ?_, ?_, ?_, rfl, rfl⟩
    · rw [hv]
      exact Sorting.sortOn_sortOn.symm
    · rw [hv]
      exact ((Sorting.sortOn_perm _ _).map _).nodup_iff.mpr h.judged.2.2
    · intro o ho
      rw [hv] at ho
      obtain ⟨hvalidator, hkind, -⟩ := h.judged.1 o (Sorting.mem_sortOn.mp ho)
      exact ⟨hvalidator, hkind⟩
    · intro row hrow
      obtain ⟨index, hindex, rfl⟩ := List.mem_map.mp hrow
      obtain ⟨hbytes, hroutes⟩ := hfits.covered index hindex
      exact ⟨rfl, rfl, hbytes, hroutes, bodyVerified_le _ _⟩
    · obtain ⟨hapart, htallied⟩ := (h.tallied_iff hv).mpr hcountable
      have hindexed : indexedOf (epochRecord policy v (derivedOf policy v)).coverage = v.indexed := List.map_map
      have habstained : abstainedOf (epochRecord policy v (derivedOf policy v)).indexAbstentions = v.abstained :=
        List.map_map
      rw [hindexed, habstained]
      exact deriveStaticEpoch_eq_ok.mpr ⟨hapart, htallied, rfl⟩

/-- **Exactly when an epoch is scored, and with which record.** The arguments are admissible, the endpoints of
the targets are apart and no endpoint has more than sixteen observations, and the record fits its contract. -/
theorem scoreStaticEpoch_eq_ok_iff :
    scoreStaticEpoch ed25519 targets indexes abstentions observations policy = .ok record ↔
      Admissible ed25519 targets indexes abstentions observations policy ∧
        Countable (evidenceOf targets indexes abstentions observations) ∧
        Fits policy (evidenceOf targets indexes abstentions observations) ∧
        record = epochRecord policy (evidenceOf targets indexes abstentions observations)
          (derivedOf policy (evidenceOf targets indexes abstentions observations)) := by
  rw [scoreStaticEpoch_eq_ok]
  apply and_congr_right
  intro h
  rw [sealEpoch_eq_ok]
  simp only [deriveStaticEpoch_eq_ok]
  constructor
  · rintro ⟨derived, ⟨hapart, htallied, rfl⟩, hvalid, hrecord⟩
    have hcountable := (h.tallied_iff rfl).mp ⟨hapart, htallied⟩
    exact ⟨hcountable, (epochRecord_valid_iff h rfl hcountable).mp hvalid, hrecord⟩
  · rintro ⟨hcountable, hfits, hrecord⟩
    obtain ⟨hapart, htallied⟩ := (h.tallied_iff rfl).mpr hcountable
    exact ⟨_, ⟨hapart, htallied, rfl⟩, (epochRecord_valid_iff h rfl hcountable).mpr hfits, hrecord⟩

/-- There are few alerts where there are few endpoints and observations. -/
lemma length_alerts_le (hbound : Bound (incarnations v.targets) v.observations) :
    (derivedOf policy v).alerts.length ≤ 5 * (incarnations v.targets).length + 1 + v.observations.length := by
  have htally : ∀ (j : Judgement) (tally : Tally) (abstained : Dict String AbstentionRecordCode),
      (j.alerts tally abstained).length ≤ 5 := by
    intro j tally abstained
    rw [Judgement.alerts, List.length_append, List.length_map]
    have hcoded := List.length_filter_le (fun entry : AlertCode × ℕ => decide (entry.2 ≠ 0))
      [(.contentFault, (j.charged tally).length), (.attestationFraud, tally.frauds.length),
        (.replayObserved, tally.codes j.suspects .cacheReplay),
        (.pathTampering, tally.codes j.suspects .contentAlteredInTransit)]
    simp only [List.length_cons, List.length_nil] at hcoded
    have habstain : (if tally.deployment.deploymentID ∉ j.indexed.keys then
        (abstained.get tally.deployment.deploymentID).toList.map fun code =>
          (⟨.abstention code, some tally.deployment.deploymentID, none⟩ : StaticAlert) else []).length ≤ 1 := by
      split
      · rw [List.length_map]
        cases abstained.get tally.deployment.deploymentID <;> simp
      · exact Nat.zero_le _
    omega
  have hall : ∀ (j : Judgement) (abstained : Dict String AbstentionRecordCode) (l : List Tally),
      (l.flatMap fun tally => j.alerts tally abstained).length ≤ 5 * l.length := by
    intro j abstained l
    induction l with
    | nil => exact Nat.le_refl _
    | cons tally l ih =>
      rw [List.flatMap_cons, List.length_append, List.length_cons]
      have hone := htally j tally abstained
      omega
  have hsuspects : (suspectRequests (talliesOf (incarnations v.targets) v.observations)).length ≤
      v.observations.length := by
    refine (List.length_filter_le _ _).trans ?_
    have hsub : (requests (talliesOf (incarnations v.targets) v.observations)).length ≤
        (v.observations.map request).length := by
      refine (List.Nodup.subperm (List.nodup_dedup _) fun r hr => ?_).length_le
      obtain ⟨o, ho, rfl⟩ := hbound.mem_requests.mp hr
      exact List.mem_map_of_mem ho
    rwa [List.length_map] at hsub
  change (Sorting.sortOn alertOrder (List.dedup _)).length ≤ _
  rw [Sorting.length_sortOn]
  refine (List.dedup_sublist _).length_le.trans ?_
  rw [List.length_append, List.length_append, List.length_map]
  have htallies := hall (judgementOf v.indexed policy.minAttempts (incarnations v.targets) v.observations)
    v.abstained ((Sorting.sortOn Prod.fst (talliesOf (incarnations v.targets) v.observations)).map Prod.snd)
  rw [List.length_map, Sorting.length_sortOn, talliesOf, List.length_map] at htallies
  refine Nat.add_le_add (Nat.add_le_add htallies ?_) hsuspects
  split
  · exact Nat.le_refl _
  · exact Nat.zero_le _

/-- A coverage row is a value of its contract when its index is, and there are not too many observations. -/
lemma coverageRow_valid {ceiling : ℤ} {values : List StaticProbeObservation} {index : AuthenticatedIndex}
    (hceiling : 1 ≤ ceiling ∧ ceiling ≤ hiddenProbeCeilingBytes) (htarget : index.target.Valid)
    (htrust : hex64 index.trustPolicyDigestSha256 = true)
    (hroutes : 1 ≤ (routeSizes index).length ∧ (routeSizes index).length ≤ 8192)
    (hbytes : byteCount (routeSizes index).sum ∧
      byteCount ((routeSizes index).filter fun size => size ≤ ceiling).sum)
    (hcovered : (probed values (indexID index)).1 ≤ (routeSizes index).length)
    (hfew : values.length ≤ maxObservations) : (coverageRow ceiling values index).Valid := by
  obtain ⟨hdeployment, -, hsite, hrelease, -⟩ := htarget
  refine ⟨hdeployment, hsite, hrelease, htrust, hceiling, hroutes, hbytes.1, hbytes.2, hcovered.trans hroutes.2,
    ((bodyVerified_le _ _).trans hcovered).trans hroutes.2, ?_⟩
  change (List.filter _ values).length - _ ≤ maxObservations
  have hle := List.length_filter_le (fun o : StaticProbeObservation => o.deploymentID = index.target.deploymentID)
    values
  omega

end Record

end StaticScoring

end Misscomputer
