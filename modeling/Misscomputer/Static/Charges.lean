import Mathlib.Data.Finset.Card
import Misscomputer.Static.Epochs

set_option relaxedAutoImplicit false
set_option autoImplicit false

/-!
# What a static epoch says of its observations

The scorer works on tallies: it gathers the observations of each endpoint, and writes rows, evidence and
actions endpoint by endpoint. Here the same fields are read off the observations themselves. The evidence is
a selection of the observations, each with its own endpoint and miner; the requests that put an index in
question are those that every endpoint of a deployment answered with one wrong response.

## Main definitions

* `StaticScoring.Bound` — every observation is of one incarnation, which has its deployment and its miner.
* `StaticScoring.InQuestion` — the requests that put an index in question.
* `StaticScoring.evidenceRow` — the row of evidence of an observation.

## Main results

* `StaticScoring.mem_suspectRequests` — the suspect requests are those in question.
* `StaticScoring.contentFaultEvidence_perm`, `StaticScoring.fraudEvidence_perm` — the evidence is a selection
  of the observations.
* `StaticScoring.filter_endpoints`, `StaticScoring.filter_endpointActions` — the row and the action of an
  endpoint.
* `StaticScoring.of_scoreStaticEpoch` — a scored epoch is such a summary.

## References

* `src/misscomputer_subnet/static_scoring.py`
-/

namespace Misscomputer

namespace StaticScoring

open Contract
open StaticIndex (AuthenticatedIndex StaticDeploymentTarget StaticEndpointTarget)
open StaticProbe

/-- The request of an observation. -/
def request (o : StaticProbeObservation) : StaticSuspectRequest := requestOf o.deploymentID o

/-- The row of evidence of an observation. -/
def evidenceRow (o : StaticProbeObservation) : StaticEvidenceRef where
  minerUID := o.minerUID
  minerHotkey := o.minerHotkey
  deploymentID := o.deploymentID
  endpointID := o.endpointID
  observationDigestSha256 := o.observationDigestSha256

/-- The tally of an incarnation. -/
def tallyOf (observations : List StaticProbeObservation) (item : Incarnation) : Tally :=
  ⟨item.1, item.2, ofEndpoint observations item.id⟩

/-- The incarnation an observation is of. -/
def IsOf (o : StaticProbeObservation) (item : Incarnation) : Prop :=
  item.id = o.endpointID ∧ item.1.deploymentID = o.deploymentID ∧ item.miner = (o.minerUID, o.minerHotkey)

/-- Every observation is of one incarnation, and no digest is repeated. -/
structure Bound (items : List Incarnation) (observations : List StaticProbeObservation) : Prop where
  apart : Apart items
  incarnation : ∀ o ∈ observations, ∃ item ∈ items, IsOf o item
  digests : (observations.map StaticProbeObservation.observationDigestSha256).Nodup
  valid : ∀ o ∈ observations, o.Valid

section Bound

variable {items : List Incarnation} {observations : List StaticProbeObservation}

lemma mem_ofEndpoint {o : StaticProbeObservation} {endpoint : String} :
    o ∈ ofEndpoint observations endpoint ↔ o ∈ observations ∧ o.endpointID = endpoint := by
  simp [ofEndpoint]

/-- An observation of an endpoint is of its incarnation. -/
lemma Bound.isOf (h : Bound items observations) {o : StaticProbeObservation} (ho : o ∈ observations)
    {item : Incarnation} (hitem : item ∈ items) (hid : o.endpointID = item.id) : IsOf o item := by
  obtain ⟨other, hother, hof⟩ := h.incarnation o ho
  have hsame : other = item := List.inj_on_of_nodup_map h.apart.1 hother hitem (hof.1.trans hid)
  exact hsame ▸ hof

/-- The tallies in the order of their endpoints. -/
lemma ordered_talliesOf (items : List Incarnation) (observations : List StaticProbeObservation) :
    (Sorting.sortOn Prod.fst (talliesOf items observations)).map Prod.snd =
      (Sorting.sortOn Incarnation.id items).map (tallyOf observations) := by
  have hmap : (Sorting.sortOn Incarnation.id items).map
      (fun item => (item.id, tallyOf observations item)) =
        Sorting.sortOn Prod.fst (talliesOf items observations) :=
    List.map_insertionSort _ _ _ items fun _ _ _ _ => Iff.rfl
  rw [← hmap, List.map_map]
  rfl

/-- The evidence gathered endpoint by endpoint is that of the observations. -/
lemma Bound.evidence_perm (h : Bound items observations) (p : StaticProbeObservation → Bool) :
    ((Sorting.sortOn Incarnation.id items).flatMap fun item =>
      ((ofEndpoint observations item.id).filter p).map fun o =>
        (tallyOf observations item).evidence o.observationDigestSha256).Perm
      ((observations.filter p).map evidenceRow) := by
  have hrow : ∀ item ∈ items, (((ofEndpoint observations item.id).filter p).map fun o =>
      (tallyOf observations item).evidence o.observationDigestSha256) =
        ((observations.filter p).filter fun o => o.endpointID = item.id).map evidenceRow := by
    intro item hitem
    have hcomm : (ofEndpoint observations item.id).filter p =
        (observations.filter p).filter fun o => o.endpointID = item.id := by
      rw [ofEndpoint, List.filter_comm]
    rw [hcomm]
    apply List.map_congr_left
    intro o ho
    obtain ⟨hp, hid⟩ := List.mem_filter.mp ho
    obtain ⟨hend, hdeployment, hminer⟩ := h.isOf (List.mem_filter.mp hp).1 hitem (of_decide_eq_true hid)
    obtain ⟨huid, hhotkey⟩ := Prod.mk.inj hminer
    change StaticEvidenceRef.mk item.2.minerUID item.2.minerHotkey item.1.deploymentID item.id _ = _
    rw [huid, hhotkey, hdeployment, hend]
    rfl
  have hkeys : ((Sorting.sortOn Incarnation.id items).map Incarnation.id).Nodup :=
    ((Sorting.sortOn_perm Incarnation.id items).map Incarnation.id).nodup_iff.mpr h.apart.1
  have hgroups : (((Sorting.sortOn Incarnation.id items).map Incarnation.id).flatMap fun endpoint =>
      (observations.filter p).filter fun o => o.endpointID = endpoint).Perm (observations.filter p) := by
    apply Dict.flatMap_groups_perm hkeys
    intro o ho
    obtain ⟨item, hitem, hof⟩ := h.incarnation o (List.mem_filter.mp ho).1
    exact List.mem_map.mpr ⟨item, Sorting.mem_sortOn.mpr hitem, hof.1⟩
  have hmapped := hgroups.map evidenceRow
  rw [List.map_flatMap, List.flatMap_map] at hmapped
  refine (List.Perm.flatMap_left _ fun item hitem => ?_).trans hmapped
  rw [hrow item (Sorting.mem_sortOn.mp hitem)]

end Bound

/-! ## Requests in question -/

/-- The requests that put an index in question: made at all, answered by every endpoint of the deployment,
always with one and the same proved wrong response, over at least two miners. -/
def InQuestion (items : List Incarnation) (observations : List StaticProbeObservation)
    (r : StaticSuspectRequest) : Prop :=
  (∃ o ∈ observations, request o = r) ∧
    (∀ item ∈ items, item.1.deploymentID = r.deploymentID →
      ∃ o ∈ observations, o.endpointID = item.id ∧ request o = r) ∧
    (∃ status body header, ∀ o ∈ observations, request o = r → o.quarantineCandidate = true ∧
      o.responseStatus = status ∧ o.responseBodySha256 = body ∧ answeredHeader o = header) ∧
    ∃ item ∈ items, ∃ item' ∈ items, item.1.deploymentID = r.deploymentID ∧
      item'.1.deploymentID = r.deploymentID ∧ item.2.minerHotkey ≠ item'.2.minerHotkey

section Question

variable {items : List Incarnation} {observations : List StaticProbeObservation} {r : StaticSuspectRequest}

/-- A content fault is no success. -/
lemma outcome_of_candidate {o : StaticProbeObservation} (h : o.Valid) (hcandidate : o.quarantineCandidate = true) :
    o.outcome ≠ .success := by
  obtain ⟨-, -, ⟨-, -, houtcome, -, hcode, -⟩, -⟩ := h
  obtain ⟨code, hmem, -⟩ := hcode.mp hcandidate
  intro hsuccess
  rw [houtcome.mp hsuccess] at hmem
  cases hmem

/-- An answer is a fault when the observation is a candidate. -/
lemma answer_eq_fault {o : StaticProbeObservation} (h : o.Valid) {status : Option ℤ} {body header : Option String} :
    answer o = .fault status body header ↔ o.quarantineCandidate = true ∧ o.responseStatus = status ∧
      o.responseBodySha256 = body ∧ answeredHeader o = header := by
  rw [answer]
  by_cases hcandidate : o.quarantineCandidate = true
  · rw [if_neg (outcome_of_candidate h hcandidate), if_pos hcandidate, Answer.fault.injEq]
    simp [hcandidate]
  · by_cases hsuccess : o.outcome = .success
    · rw [if_pos hsuccess]
      simp [hcandidate]
    · rw [if_neg hsuccess, if_neg hcandidate]
      simp [hcandidate]

lemma requestOf_incarnation {o : StaticProbeObservation} {item : Incarnation} (h : IsOf o item) :
    requestOf item.1.deploymentID o = request o := by
  rw [request, h.2.1]

lemma mem_talliesOf {entry : String × Tally} : entry ∈ talliesOf items observations ↔
    ∃ item ∈ items, entry = (item.id, tallyOf observations item) := by
  rw [talliesOf, List.mem_map]
  constructor
  · rintro ⟨item, hitem, heq⟩
    exact ⟨item, hitem, heq.symm⟩
  · rintro ⟨item, hitem, heq⟩
    exact ⟨item, hitem, heq.symm⟩

/-- The requests that were made. -/
lemma Bound.mem_requests (h : Bound items observations) :
    r ∈ requests (talliesOf items observations) ↔ ∃ o ∈ observations, request o = r := by
  rw [requests, List.mem_dedup, List.mem_flatMap]
  constructor
  · rintro ⟨entry, hentry, hr⟩
    obtain ⟨item, hitem, rfl⟩ := mem_talliesOf.mp hentry
    obtain ⟨o, ho, rfl⟩ := List.mem_map.mp hr
    obtain ⟨hmem, hid⟩ := mem_ofEndpoint.mp ho
    exact ⟨o, hmem, (requestOf_incarnation (h.isOf hmem hitem hid)).symm⟩
  · rintro ⟨o, ho, rfl⟩
    obtain ⟨item, hitem, hof⟩ := h.incarnation o ho
    refine ⟨_, mem_talliesOf.mpr ⟨item, hitem, rfl⟩, List.mem_map.mpr ⟨o, ?_, requestOf_incarnation hof⟩⟩
    exact mem_ofEndpoint.mpr ⟨ho, hof.1.symm⟩

/-- The endpoints that answered a request. -/
lemma Bound.mem_answering (h : Bound items observations) {endpoint : String} :
    endpoint ∈ answering (talliesOf items observations) r ↔
      ∃ o ∈ observations, o.endpointID = endpoint ∧ request o = r := by
  rw [answering, List.mem_map]
  constructor
  · rintro ⟨entry, hentry, rfl⟩
    obtain ⟨hmem, hr⟩ := List.mem_filter.mp hentry
    obtain ⟨item, hitem, rfl⟩ := mem_talliesOf.mp hmem
    obtain ⟨o, ho, hr⟩ := List.mem_map.mp (of_decide_eq_true hr)
    obtain ⟨hmem, hid⟩ := mem_ofEndpoint.mp ho
    exact ⟨o, hmem, hid, (requestOf_incarnation (h.isOf hmem hitem hid)).symm.trans hr⟩
  · rintro ⟨o, ho, rfl, rfl⟩
    obtain ⟨item, hitem, hof⟩ := h.incarnation o ho
    refine ⟨_, List.mem_filter.mpr ⟨mem_talliesOf.mpr ⟨item, hitem, rfl⟩, ?_⟩, hof.1⟩
    apply decide_eq_true
    exact List.mem_map.mpr ⟨o, mem_ofEndpoint.mpr ⟨ho, hof.1.symm⟩, requestOf_incarnation hof⟩

/-- The answers to a request. -/
lemma Bound.mem_answersTo (h : Bound items observations) {value : Answer} :
    value ∈ answersTo (talliesOf items observations) r ↔
      ∃ o ∈ observations, request o = r ∧ answer o = value := by
  rw [answersTo, List.mem_dedup, List.mem_flatMap]
  constructor
  · rintro ⟨entry, hentry, hvalue⟩
    obtain ⟨item, hitem, rfl⟩ := mem_talliesOf.mp hentry
    obtain ⟨o, ho, rfl⟩ := List.mem_map.mp hvalue
    obtain ⟨hseen, hr⟩ := List.mem_filter.mp ho
    obtain ⟨hmem, hid⟩ := mem_ofEndpoint.mp hseen
    exact ⟨o, hmem, (requestOf_incarnation (h.isOf hmem hitem hid)).symm.trans (of_decide_eq_true hr), rfl⟩
  · rintro ⟨o, ho, rfl, rfl⟩
    obtain ⟨item, hitem, hof⟩ := h.incarnation o ho
    refine ⟨_, mem_talliesOf.mpr ⟨item, hitem, rfl⟩, List.mem_map.mpr ⟨o, List.mem_filter.mpr ⟨?_, ?_⟩, rfl⟩⟩
    · exact mem_ofEndpoint.mpr ⟨ho, hof.1.symm⟩
    · exact decide_eq_true (requestOf_incarnation hof)

/-- The endpoints of a deployment. -/
lemma mem_population {endpoint deployment : String} :
    endpoint ∈ population (talliesOf items observations) deployment ↔
      ∃ item ∈ items, item.id = endpoint ∧ item.1.deploymentID = deployment := by
  rw [population, List.mem_map]
  constructor
  · rintro ⟨entry, hentry, rfl⟩
    obtain ⟨hmem, hd⟩ := List.mem_filter.mp hentry
    obtain ⟨item, hitem, rfl⟩ := mem_talliesOf.mp hmem
    exact ⟨item, hitem, rfl, of_decide_eq_true hd⟩
  · rintro ⟨item, hitem, rfl, hd⟩
    exact ⟨_, List.mem_filter.mpr ⟨mem_talliesOf.mpr ⟨item, hitem, rfl⟩, decide_eq_true hd⟩, rfl⟩

/-- Two distinct elements make a set of at least two. -/
lemma two_le_length_dedup {α : Type} [DecidableEq α] {l : List α} :
    2 ≤ l.dedup.length ↔ ∃ a ∈ l, ∃ b ∈ l, a ≠ b := by
  rw [← List.card_toFinset]
  change 1 < _ ↔ _
  rw [Finset.one_lt_card]
  simp only [List.mem_toFinset]

/-- The deployment is served by two miners. -/
lemma two_le_minersOf {deployment : String} : 2 ≤ (minersOf (talliesOf items observations) deployment).length ↔
    ∃ item ∈ items, ∃ item' ∈ items, item.1.deploymentID = deployment ∧
      item'.1.deploymentID = deployment ∧ item.2.minerHotkey ≠ item'.2.minerHotkey := by
  have hmem : ∀ hotkey, hotkey ∈ ((talliesOf items observations).filter fun entry =>
      entry.2.deployment.deploymentID = deployment).map (fun entry => entry.2.endpoint.minerHotkey) ↔
        ∃ item ∈ items, item.1.deploymentID = deployment ∧ item.2.minerHotkey = hotkey := by
    intro hotkey
    rw [List.mem_map]
    constructor
    · rintro ⟨entry, hentry, rfl⟩
      obtain ⟨hmem, hd⟩ := List.mem_filter.mp hentry
      obtain ⟨item, hitem, rfl⟩ := mem_talliesOf.mp hmem
      exact ⟨item, hitem, of_decide_eq_true hd, rfl⟩
    · rintro ⟨item, hitem, hd, rfl⟩
      exact ⟨_, List.mem_filter.mpr ⟨mem_talliesOf.mpr ⟨item, hitem, rfl⟩, decide_eq_true hd⟩, rfl⟩
  rw [minersOf, two_le_length_dedup]
  constructor
  · rintro ⟨a, ha, b, hb, hne⟩
    obtain ⟨item, hitem, hd, rfl⟩ := (hmem a).mp ha
    obtain ⟨item', hitem', hd', rfl⟩ := (hmem b).mp hb
    exact ⟨item, hitem, item', hitem', hd, hd', hne⟩
  · rintro ⟨item, hitem, item', hitem', hd, hd', hne⟩
    exact ⟨_, (hmem _).mpr ⟨item, hitem, hd, rfl⟩, _, (hmem _).mpr ⟨item', hitem', hd', rfl⟩, hne⟩

/-- A list without repetitions has one element when all its elements are that one. -/
lemma dedup_eq_singleton {α : Type} [DecidableEq α] {l : List α} {a : α} :
    l.dedup = [a] ↔ a ∈ l ∧ ∀ b ∈ l, b = a := by
  constructor
  · intro h
    have hmem : ∀ b, b ∈ l ↔ b = a := by
      intro b
      rw [← List.mem_dedup, h, List.mem_singleton]
    exact ⟨(hmem a).mpr rfl, fun b hb => (hmem b).mp hb⟩
  · rintro ⟨ha, hall⟩
    apply List.perm_singleton.mp
    rw [List.perm_ext_iff_of_nodup l.nodup_dedup (List.nodup_singleton a)]
    intro b
    rw [List.mem_dedup, List.mem_singleton]
    exact ⟨hall b, fun h => h ▸ ha⟩

/-- The answers to a request are one fault. -/
lemma Bound.fault_iff (h : Bound items observations) :
    (∃ value, answersTo (talliesOf items observations) r = [value] ∧ value.isFault = true) ↔
      (∃ o ∈ observations, request o = r) ∧ ∃ status body header, ∀ o ∈ observations, request o = r →
        o.quarantineCandidate = true ∧ o.responseStatus = status ∧ o.responseBodySha256 = body ∧
          answeredHeader o = header := by
  have hmem : ∀ value, value ∈ answersTo (talliesOf items observations) r ↔
      ∃ o ∈ observations, request o = r ∧ answer o = value := fun value => h.mem_answersTo
  have hset : ∀ value, answersTo (talliesOf items observations) r = [value] ↔
      value ∈ answersTo (talliesOf items observations) r ∧
        ∀ other ∈ answersTo (talliesOf items observations) r, other = value := by
    intro value
    rw [answersTo, dedup_eq_singleton]
    simp only [List.mem_dedup]
  constructor
  · rintro ⟨value, hvalue, hfault⟩
    obtain ⟨hin, hall⟩ := (hset value).mp hvalue
    obtain ⟨o, ho, hr, -⟩ := (hmem value).mp hin
    refine ⟨⟨o, ho, hr⟩, ?_⟩
    cases value with
    | pass => cases hfault
    | other code => cases hfault
    | fault status body header =>
      refine ⟨status, body, header, fun o ho hr => ?_⟩
      exact (answer_eq_fault (h.valid o ho)).mp (hall _ ((hmem _).mpr ⟨o, ho, hr, rfl⟩))
  · rintro ⟨⟨o, ho, hr⟩, status, body, header, hall⟩
    have hanswer : ∀ o ∈ observations, request o = r → answer o = .fault status body header :=
      fun o ho hr => (answer_eq_fault (h.valid o ho)).mpr (hall o ho hr)
    refine ⟨.fault status body header, (hset _).mpr ⟨?_, ?_⟩, rfl⟩
    · exact (hmem _).mpr ⟨o, ho, hr, hanswer o ho hr⟩
    · intro other hother
      obtain ⟨o, ho, hr, rfl⟩ := (hmem other).mp hother
      exact hanswer o ho hr

/-- **The suspect requests are those that put the index in question.** -/
theorem mem_suspectRequests (h : Bound items observations) :
    r ∈ suspectRequests (talliesOf items observations) ↔ InQuestion items observations r := by
  rw [suspectRequests, List.mem_filter, h.mem_requests, decide_eq_true_iff, Suspect, h.fault_iff, ge_iff_le,
    two_le_minersOf, InQuestion]
  have hpopulation : (∀ endpoint, endpoint ∈ answering (talliesOf items observations) r ↔
      endpoint ∈ population (talliesOf items observations) r.deploymentID) ↔
        ∀ item ∈ items, item.1.deploymentID = r.deploymentID →
          ∃ o ∈ observations, o.endpointID = item.id ∧ request o = r := by
    simp only [h.mem_answering, mem_population]
    constructor
    · intro hiff item hitem hd
      exact (hiff item.id).mpr ⟨item, hitem, rfl, hd⟩
    · intro hall endpoint
      constructor
      · rintro ⟨o, ho, rfl, rfl⟩
        obtain ⟨item, hitem, hof⟩ := h.incarnation o ho
        exact ⟨item, hitem, hof.1, hof.2.1⟩
      · rintro ⟨item, hitem, rfl, hd⟩
        exact hall item hitem hd
  rw [hpopulation]
  constructor
  · rintro ⟨hmade, hall, hminers, -, hfault⟩
    exact ⟨hmade, hall, hfault, hminers⟩
  · rintro ⟨hmade, hall, hfault, hminers⟩
    exact ⟨hmade, hall, hminers, hmade, hfault⟩

end Question

/-! ## The fields of a summary -/

/-- What the rows of the endpoints depend on, for given observations. -/
def judgementOf (indexed : Dict String (String × String)) (minAttempts : ℤ) (items : List Incarnation)
    (observations : List StaticProbeObservation) : Judgement :=
  let tallies := talliesOf items observations
  ⟨indexed, suspectRequests tallies, commonMode (suspectRequests tallies) tallies, minAttempts⟩

section Summary

variable {items : List Incarnation} {observations : List StaticProbeObservation}
  (indexed : Dict String (String × String)) (abstained : Dict String AbstentionRecordCode) (minAttempts : ℤ)

/-- The status of the epoch tells whether the path was down. -/
lemma epochStatus_summarize (tallies : Dict String Tally) :
    (summarize indexed abstained minAttempts tallies).epochStatus = .commonModeUnavailable ↔
      commonMode (suspectRequests tallies) tallies := by
  rw [summarize]
  by_cases h : commonMode (suspectRequests tallies) tallies
  · simp [h]
  · simp only [h, decide_false, Bool.false_eq_true, if_false, iff_false]
    split <;> simp

/-- The row of an endpoint is its only row. -/
theorem filter_endpoints (h : Apart items) {item : Incarnation} (hitem : item ∈ items) :
    ((summarize indexed abstained minAttempts (talliesOf items observations)).endpoints.filter
      fun row => row.endpointID = item.id) =
      [(judgementOf indexed minAttempts items observations).row (tallyOf observations item)] := by
  have hfields : (summarize indexed abstained minAttempts (talliesOf items observations)).endpoints =
      (Sorting.sortOn Incarnation.id items).map fun item =>
        (judgementOf indexed minAttempts items observations).row (tallyOf observations item) := by
    change ((Sorting.sortOn Prod.fst (talliesOf items observations)).map Prod.snd).map _ = _
    rw [ordered_talliesOf, List.map_map]
    rfl
  have hnodup : ((Sorting.sortOn Incarnation.id items).map Incarnation.id).Nodup :=
    ((Sorting.sortOn_perm Incarnation.id items).map Incarnation.id).nodup_iff.mpr h.1
  have hone := Dict.filter_eq_singleton hnodup (Sorting.mem_sortOn.mpr hitem)
  rw [hfields, List.filter_map]
  exact congrArg (List.map _) hone

/-- The action of an endpoint, if any, is its only action. -/
theorem filter_endpointActions (h : Apart items) {item : Incarnation} (hitem : item ∈ items) :
    ((summarize indexed abstained minAttempts (talliesOf items observations)).endpointActions.filter
      fun action => action.endpointID = item.id) =
      ((judgementOf indexed minAttempts items observations).action (tallyOf observations item)).toList := by
  have hfields : (summarize indexed abstained minAttempts (talliesOf items observations)).endpointActions =
      (Sorting.sortOn Incarnation.id items).filterMap fun item =>
        (judgementOf indexed minAttempts items observations).action (tallyOf observations item) := by
    change ((Sorting.sortOn Prod.fst (talliesOf items observations)).map Prod.snd).filterMap _ = _
    rw [ordered_talliesOf, List.filterMap_map]
    rfl
  have hnodup : ((Sorting.sortOn Incarnation.id items).map Incarnation.id).Nodup :=
    ((Sorting.sortOn_perm Incarnation.id items).map Incarnation.id).nodup_iff.mpr h.1
  have hone := Dict.filter_eq_singleton hnodup (Sorting.mem_sortOn.mpr hitem)
  have hnamed : ∀ other : Incarnation,
      (((judgementOf indexed minAttempts items observations).action (tallyOf observations other)).filter
        fun action => action.endpointID = item.id) =
        if decide (other.id = item.id) = true then
          (judgementOf indexed minAttempts items observations).action (tallyOf observations other) else none := by
    intro other
    rw [Judgement.action]
    split
    · rw [Option.filter_some]
      rfl
    · simp
  rw [hfields, List.filter_filterMap]
  simp only [hnamed]
  rw [← List.filterMap_filter, hone, List.filterMap_cons, List.filterMap_nil]
  cases (judgementOf indexed minAttempts items observations).action (tallyOf observations item) <;> rfl

/-- **The fraud evidence is that of the fraudulent observations**, whatever the status of the epoch. -/
theorem fraudEvidence_perm (h : Bound items observations) :
    (summarize indexed abstained minAttempts (talliesOf items observations)).fraudEvidence.Perm
      ((observations.filter fun o => o.attestationStatus = .fraudulent).map evidenceRow) := by
  refine (Sorting.sortOn_perm _ _).trans ?_
  rw [ordered_talliesOf, List.flatMap_map]
  have hrows : ∀ item : Incarnation, (tallyOf observations item).frauds.map (tallyOf observations item).evidence =
      ((ofEndpoint observations item.id).filter fun o => o.attestationStatus = .fraudulent).map fun o =>
        (tallyOf observations item).evidence o.observationDigestSha256 := by
    intro item
    rw [Tally.frauds, List.map_map]
    rfl
  simp only [hrows]
  exact h.evidence_perm _

/-- The observations whose content fault is charged: the candidates that are not of a suspect request. -/
def chargedFaults (items : List Incarnation) (observations : List StaticProbeObservation) :
    List StaticProbeObservation :=
  observations.filter fun o =>
    o.quarantineCandidate && decide (request o ∉ suspectRequests (talliesOf items observations))

/-- **The content fault evidence is that of the charged faults**, unless the path was down. -/
theorem contentFaultEvidence_perm (h : Bound items observations)
    (hcommon : (judgementOf indexed minAttempts items observations).commonMode = false) :
    (summarize indexed abstained minAttempts (talliesOf items observations)).contentFaultEvidence.Perm
      ((chargedFaults items observations).map evidenceRow) := by
  refine (Sorting.sortOn_perm _ _).trans ?_
  rw [ordered_talliesOf, List.flatMap_map]
  refine List.Perm.trans (List.Perm.flatMap_left _ fun item _ => ?_) (h.evidence_perm _)
  change ((Judgement.charged (judgementOf indexed minAttempts items observations)
    (tallyOf observations item)).map _).Perm _
  rw [Judgement.charged, hcommon, if_neg Bool.false_ne_true]
  refine ((Sorting.sortOn_perm _ _).map _).trans ?_
  rw [Tally.faults, Tally.counted, List.map_map, List.filter_filter]
  exact List.Perm.refl _

/-- The parties of the counted observations. -/
lemma counts_add (suspects : List StaticSuspectRequest) (tally : Tally) :
    tally.attempts suspects =
      tally.counts suspects .none + tally.counts suspects .path + tally.counts suspects .miner := by
  rw [Tally.attempts, Tally.counts, Tally.counts, Tally.counts]
  induction tally.counted suspects with
  | nil => rfl
  | cons o l ih =>
    simp only [List.length_cons, List.countP_cons, ih]
    cases o.attribution <;> simp <;> omega

end Summary

/-! ## Scored epochs -/

section Scored

variable {ed25519 : String → String → List UInt8 → Bool} {targets : List StaticDeploymentTarget}
  {indexes : List AuthenticatedIndex} {abstentions : List StaticIndexAbstention}
  {observations : List StaticProbeObservation} {policy : EpochPolicy} {record : StaticEpochScore}

/-- The endpoints of the targets. -/
lemma mem_incarnations {targets : List StaticDeploymentTarget} {item : Incarnation} :
    item ∈ incarnations targets ↔ item.1 ∈ targets ∧ item.2 ∈ item.1.endpoints := by
  rw [incarnations, List.mem_flatMap]
  constructor
  · rintro ⟨d, hd, hitem⟩
    obtain ⟨e, he, rfl⟩ := List.mem_map.mp hitem
    exact ⟨hd, he⟩
  · rintro ⟨hd, he⟩
    exact ⟨item.1, hd, List.mem_map.mpr ⟨item.2, he, rfl⟩⟩

/-- A verified observation is of an endpoint of the index, with its miner and its release. -/
lemma of_verifyObservation {o : StaticProbeObservation} {index : AuthenticatedIndex} {ceiling : ℤ}
    (h : verifyObservation ed25519 o index ceiling = .ok ()) :
    (∃ endpoint ∈ index.target.endpoints, endpoint.endpointID = o.endpointID ∧
        endpoint.minerUID = o.minerUID ∧ endpoint.minerHotkey = o.minerHotkey) ∧
      o.releaseDigest = index.target.releaseDigest ∧
      o.releaseTrustPolicyDigestSha256 = index.trustPolicyDigestSha256 := by
  rw [verifyObservation] at h
  cases hfind : findStaticEndpoint index o.endpointID with
  | none =>
    rw [hfind] at h
    cases h
  | some endpoint =>
    rw [hfind] at h
    simp only [Except.bind_eq_ok, Except.reject_eq_ok] at h
    obtain ⟨-, hbound, -, hrelease, -⟩ := h
    simp only [not_or, not_not, ne_eq] at hbound hrelease
    refine ⟨⟨endpoint, List.mem_of_find?_eq_some hfind, ?_, hbound.2.2.1.symm, hbound.2.2.2.symm⟩, hrelease⟩
    simpa using List.find?_some hfind

/-- The observations of admissible arguments are bound to their incarnations. -/
lemma Admissible.bound (h : Admissible ed25519 targets indexes abstentions observations policy)
    (hapart : Apart (incarnations (evidenceOf targets indexes abstentions observations).targets)) :
    Bound (incarnations (evidenceOf targets indexes abstentions observations).targets)
      (evidenceOf targets indexes abstentions observations).observations := by
  obtain ⟨htargets, hobservations⟩ := mem_evidenceOf targets indexes abstentions observations
  have hperm : (evidenceOf targets indexes abstentions observations).observations.Perm observations :=
    Sorting.sortOn_perm _ _
  refine ⟨hapart, ?_, (hperm.map _).nodup_iff.mpr h.judged.2.1, ?_⟩
  · intro o ho
    obtain ⟨-, -, -, -, index, hindex, hid, hverify⟩ := h.judged.1 o ((hobservations o).mp ho)
    obtain ⟨⟨endpoint, hendpoint, hend, huid, hhotkey⟩, -⟩ := of_verifyObservation hverify
    refine ⟨(index.target, endpoint), mem_incarnations.mpr ⟨?_, hendpoint⟩, hend, hid, ?_⟩
    · exact (htargets _).mpr (h.verified.1 index hindex)
    · exact Prod.ext huid hhotkey
  · intro o ho
    exact h.observationsValid o ((hobservations o).mp ho)

/-- **A scored epoch is a summary of its observations.** -/
theorem of_scoreStaticEpoch
    (h : scoreStaticEpoch ed25519 targets indexes abstentions observations policy = .ok record) :
    let v := evidenceOf targets indexes abstentions observations
    Bound (incarnations v.targets) v.observations ∧
      record = epochRecord policy v (summarize v.indexed v.abstained policy.minAttempts
        (talliesOf (incarnations v.targets) v.observations)) ∧ record.Valid := by
  intro v
  obtain ⟨hadmissible, hseal⟩ := scoreStaticEpoch_eq_ok.mp h
  obtain ⟨derived, hderived, hvalid, rfl⟩ := sealEpoch_eq_ok.mp hseal
  obtain ⟨hapart, -, rfl⟩ := deriveStaticEpoch_eq_ok.mp hderived
  exact ⟨hadmissible.bound hapart, rfl, hvalid⟩

end Scored

end StaticScoring

end Misscomputer
