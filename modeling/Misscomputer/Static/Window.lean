import Misscomputer.Organic.Window
import Misscomputer.Static.Charges

set_option relaxedAutoImplicit false
set_option autoImplicit false

/-!
# The static window

The static availability of each miner over a window of sealed epochs, with the evidence of content faults and
of fraud in it.

## Main definitions

* `StaticScoring.StaticAvailabilityScore` — the sealed window.
* `StaticScoring.aggregateStaticWindow` — the window of a list of epochs.
* `StaticScoring.Windowed` — the preconditions on the epochs.

## Main results

* `StaticScoring.aggregateStaticWindow_eq_ok` — the windows that are sealed, and what is sealed.
* `StaticScoring.aggregateStaticWindow_conflict` — a window is refused for an identity conflict exactly when
  UIDs and hotkeys are not paired one to one.

## References

* `src/misscomputer_subnet/static_scoring.py`
-/

namespace Misscomputer

namespace StaticScoring

open Contract
open Except (reject)
open Organic (maxEpochs)
open Scoring (EndpointEpoch MinerMean Reduced WindowRejection windowMeans windowMiners)

/-! ## The sealed window -/

/-- `StaticMinerAvailability`. -/
structure StaticMinerAvailability extends MinerMean where
  contentFaults : ℕ
  fraudulentAttestations : ℕ
deriving DecidableEq

/-- `StaticAvailabilityScore`. -/
structure StaticAvailabilityScore where
  network : Network
  netuid : ℤ
  validatorHotkey : String
  epochSeconds : ℤ
  epochIndexes : List ℤ
  epochScoreDigests : List String
  abstainedEpochs : List ℤ
  miners : List StaticMinerAvailability
  contentFaultEvidence : List StaticEvidenceRef
  fraudEvidence : List StaticEvidenceRef
  scoreDigestSha256 : String
deriving DecidableEq

/-- `model_document` of a miner's row. -/
def StaticMinerAvailability.toJson (m : StaticMinerAvailability) : Json :=
  document [("miner_uid", .num m.minerUID), ("miner_hotkey", text m.minerHotkey),
    ("eligible_endpoint_epochs", .num m.eligibleEndpointEpochs),
    ("availability_numerator", .num m.availabilityNumerator),
    ("availability_denominator", .num m.availabilityDenominator),
    ("content_faults", .num m.contentFaults), ("fraudulent_attestations", .num m.fraudulentAttestations)]

/-- The members the digest of a window covers. -/
def StaticAvailabilityScore.members (s : StaticAvailabilityScore) : List (String × Json) :=
  [("schema", text "miss.computer/misscomputer-subnet/static-availability-score"),
    ("schema_version", .num 1), ("purpose", text "static_availability_scoring_v1"),
    ("network", text s.network.text), ("netuid", .num s.netuid), ("validator_hotkey", text s.validatorHotkey),
    ("epoch_seconds", .num s.epochSeconds), ("epoch_indexes", .arr (s.epochIndexes.map .num)),
    ("epoch_score_digests", .arr (s.epochScoreDigests.map text)),
    ("abstained_epochs", .arr (s.abstainedEpochs.map .num)),
    ("miners", .arr (s.miners.map StaticMinerAvailability.toJson)),
    ("content_fault_evidence", .arr (s.contentFaultEvidence.map StaticEvidenceRef.toJson)),
    ("fraud_evidence", .arr (s.fraudEvidence.map StaticEvidenceRef.toJson))]

/-- `static_availability_score_bytes`. -/
def StaticAvailabilityScore.bytes (s : StaticAvailabilityScore) : List UInt8 :=
  canonicalJson (document (s.members ++ [("score_digest_sha256", text s.scoreDigestSha256)])) ++
    Text.bytes ['\n']

/-- The values of the contract. -/
def StaticMinerAvailability.Valid (m : StaticMinerAvailability) : Prop :=
  uid m.minerUID ∧ hotkey m.minerHotkey ∧
    (1 ≤ m.eligibleEndpointEpochs ∧ m.eligibleEndpointEpochs ≤ maxEndpoints * maxEpochs) ∧
    1 ≤ m.availabilityDenominator ∧ Reduced m.availabilityNumerator m.availabilityDenominator

instance (m : StaticMinerAvailability) : Decidable m.Valid := by
  unfold StaticMinerAvailability.Valid
  infer_instance

namespace StaticAvailabilityScore

/-- The checks of the fields. -/
def FieldsValid (s : StaticAvailabilityScore) : Prop :=
  s.netuid ∈ [24, 581] ∧ hotkey s.validatorHotkey ∧ (60 ≤ s.epochSeconds ∧ s.epochSeconds ≤ 3600) ∧
    (1 ≤ s.epochIndexes.length ∧ s.epochIndexes.length ≤ maxEpochs) ∧
    (∀ n ∈ s.epochIndexes, 0 ≤ n ∧ n ≤ 2 ^ 62) ∧
    (1 ≤ s.epochScoreDigests.length ∧ s.epochScoreDigests.length ≤ maxEpochs) ∧
    (∀ d ∈ s.epochScoreDigests, hex64 d) ∧ s.abstainedEpochs.length ≤ maxEpochs ∧
    (∀ n ∈ s.abstainedEpochs, 0 ≤ n ∧ n ≤ 2 ^ 62) ∧ s.miners.length ≤ maxEndpoints ∧
    (∀ m ∈ s.miners, m.Valid) ∧
    (s.contentFaultEvidence.length ≤ maxObservations ∧ ∀ row ∈ s.contentFaultEvidence, row.Valid) ∧
    (s.fraudEvidence.length ≤ maxObservations ∧ ∀ row ∈ s.fraudEvidence, row.Valid) ∧
    hex64 s.scoreDigestSha256

/-- `canonical_score`. -/
def Canonical (s : StaticAvailabilityScore) : Prop :=
  (s.network, s.netuid) ∈ networks ∧ s.epochIndexes = Sorting.sortedSet s.epochIndexes ∧
    s.epochScoreDigests.length = s.epochIndexes.length ∧
    (∀ n ∈ s.abstainedEpochs, n ∈ s.epochIndexes) ∧
    s.abstainedEpochs = Sorting.sortedSet s.abstainedEpochs ∧
    s.miners.map (fun m => m.toMinerMean.key) = Sorting.sortedSet (s.miners.map fun m => m.toMinerMean.key) ∧
    (s.miners.map fun m => m.minerHotkey).Nodup ∧ s.scoreDigestSha256 = digest (document s.members)

/-- The values of the contract. -/
def Valid (s : StaticAvailabilityScore) : Prop := s.FieldsValid ∧ s.Canonical

instance (s : StaticAvailabilityScore) : Decidable s.FieldsValid := by
  unfold FieldsValid
  infer_instance

instance (s : StaticAvailabilityScore) : Decidable s.Canonical := by
  unfold Canonical
  infer_instance

instance (s : StaticAvailabilityScore) : Decidable s.Valid := inferInstanceAs (Decidable (_ ∧ _))

end StaticAvailabilityScore

/-! ## The aggregator -/

/-- What the window reads of an endpoint's row. -/
def StaticEndpointTally.view (t : StaticEndpointTally) : EndpointEpoch where
  minerUID := t.minerUID
  minerHotkey := t.minerHotkey
  eligible := t.disposition = .eligible
  availabilityNumerator := t.availabilityNumerator
  availabilityDenominator := t.availabilityDenominator

/-- The rejection of a window in the words of the static scorer. -/
def ofWindowRejection : WindowRejection → StaticFailure
  | .identityConflict => .scoring .identityConflict
  | .outcomeInconsistent => .scoring .outcomeInconsistent

/-- The endpoints of a list of epochs. -/
def endpointsOf (epochs : List StaticEpochScore) : List StaticEndpointTally :=
  epochs.flatMap fun e => e.endpoints

/-- `fault_rows`, in the order of the epochs. -/
def faultRows (epochs : List StaticEpochScore) : List StaticEvidenceRef :=
  epochs.flatMap fun e => e.contentFaultEvidence

/-- `fraud_rows`, in the order of the epochs. -/
def fraudRows (epochs : List StaticEpochScore) : List StaticEvidenceRef :=
  epochs.flatMap fun e => e.fraudEvidence

/-- `faults`, `frauds`: the number of rows that name a hotkey. -/
def counters (rows : List StaticEvidenceRef) : Dict String ℕ :=
  Dict.collect StaticEvidenceRef.minerHotkey (fun n _ => n.getD 0 + 1) rows

/-- The window that is sealed, before its own contract is checked. -/
def windowRecord (first : StaticEpochScore) (values : List StaticEpochScore) (means : List MinerMean) :
    StaticAvailabilityScore :=
  let unsigned : StaticAvailabilityScore :=
    { network := first.network
      netuid := first.netuid
      validatorHotkey := first.validatorHotkey
      epochSeconds := first.epochSeconds
      epochIndexes := values.map StaticEpochScore.epochIndex
      epochScoreDigests := values.map StaticEpochScore.epochScoreDigestSha256
      abstainedEpochs := (values.filter fun e => e.epochStatus ≠ .scored).map StaticEpochScore.epochIndex
      miners := means.map fun m =>
        { m with
          contentFaults := ((counters (faultRows values)).get m.minerHotkey).getD 0
          fraudulentAttestations := ((counters (fraudRows values)).get m.minerHotkey).getD 0 }
      contentFaultEvidence := Sorting.sortOn StaticEvidenceRef.observationDigestSha256 (faultRows values)
      fraudEvidence := Sorting.sortOn StaticEvidenceRef.observationDigestSha256 (fraudRows values)
      scoreDigestSha256 := "" }
  { unsigned with scoreDigestSha256 := digest (document unsigned.members) }

/-- The window of the sorted epochs. -/
def aggregateSorted : List StaticEpochScore → Except StaticFailure StaticAvailabilityScore
  | [] => .error (.scoring .epochsInvalid)
  | first :: rest => do
    let values := first :: rest
    reject (values.length > maxEpochs) (.scoring .epochsInvalid)
    reject (¬ (values.map StaticEpochScore.epochIndex).Nodup ∨
      ∃ item ∈ values, item.epochSeconds ≠ first.epochSeconds) (.scoring .epochsInvalid)
    reject (∃ item ∈ values, item.validatorHotkey ≠ first.validatorHotkey) (.scoring .validatorMismatch)
    reject (∃ item ∈ values, (item.network, item.netuid) ≠ (first.network, first.netuid))
      (.scoring .networkMismatch)
    let means ← (windowMeans ((endpointsOf values).map StaticEndpointTally.view)).mapError ofWindowRejection
    let record := windowRecord first values means
    revalidate StaticAvailabilityScore.Valid record
    return record

/-- `aggregate_static_window`. -/
def aggregateStaticWindow (epochs : List StaticEpochScore) : Except StaticFailure StaticAvailabilityScore := do
  epochs.forM (revalidate StaticEpochScore.Valid)
  aggregateSorted (Sorting.sortOn StaticEpochScore.epochIndex epochs)

/-! ## What a sealed epoch says -/

namespace StaticEpochScore

variable {e : StaticEpochScore} {t : StaticEndpointTally}

/-- What the rows of a sealed epoch depend on. -/
def judgement (e : StaticEpochScore) : Judgement :=
  judgementOf (indexedOf e.coverage) e.minAttempts (incarnations e.targets) e.observations

/-- A sealed epoch was derived from its observations. -/
lemma Valid.derived (h : e.Valid) : Apart (incarnations e.targets) ∧
    Tallied (incarnations e.targets) (indexedOf e.coverage) e.epochSeconds e.epochIndex e.observations ∧
    e.toStaticDerived = summarize (indexedOf e.coverage) (abstainedOf e.indexAbstentions) e.minAttempts
      (talliesOf (incarnations e.targets) e.observations) :=
  deriveStaticEpoch_eq_ok.mp h.2.2.2.2.2.2.2.1

lemma Valid.endpoints_eq (h : e.Valid) : e.endpoints =
    (Sorting.sortOn Incarnation.id (incarnations e.targets)).map fun item =>
      e.judgement.row (tallyOf e.observations item) := by
  have hfield : e.endpoints = ((Sorting.sortOn Prod.fst (talliesOf (incarnations e.targets) e.observations)).map
      Prod.snd).map e.judgement.row := congrArg StaticDerived.endpoints h.derived.2.2
  rw [hfield, ordered_talliesOf, List.map_map]
  rfl

/-- The rows of a sealed epoch. -/
lemma Valid.mem_endpoints (h : e.Valid) (ht : t ∈ e.endpoints) :
    ∃ item ∈ incarnations e.targets, t = e.judgement.row (tallyOf e.observations item) := by
  rw [h.endpoints_eq] at ht
  obtain ⟨item, hitem, rfl⟩ := List.mem_map.mp ht
  exact ⟨item, Sorting.mem_sortOn.mp hitem, rfl⟩

/-- **The availability of an eligible endpoint** is its successes over its attempts. -/
theorem Valid.availability (h : e.Valid) (ht : t ∈ e.endpoints) (helig : t.disposition = .eligible) :
    t.view.Measured ∧ t.view.ratio = (t.successes : ℚ) / (t.attempts : ℚ) ∧ 0 ≤ t.view.ratio ∧
      t.view.ratio ≤ 1 := by
  obtain ⟨item, -, rfl⟩ := h.mem_endpoints ht
  set tally := tallyOf e.observations item
  have helig' : e.judgement.disposition tally = .eligible := helig
  have hle : tally.counts e.judgement.suspects .none ≤ tally.attempts e.judgement.suspects :=
    List.countP_le_length
  obtain ⟨hvalue, hlow, hhigh⟩ := Scoring.ratio_of_counts hle
  have hratio : (e.judgement.row tally).view.ratio =
      (tally.counts e.judgement.suspects .none : ℚ) / (tally.attempts e.judgement.suspects : ℚ) := by
    simp only [EndpointEpoch.ratio, StaticEndpointTally.view, Judgement.row, helig', if_true, Option.getD_some]
    exact hvalue
  refine ⟨?_, hratio, hratio ▸ hlow, hratio ▸ hhigh⟩
  simp only [EndpointEpoch.Measured, StaticEndpointTally.view, Judgement.row, helig', if_true]
  refine ⟨by simp, by simp, ?_⟩
  rw [ne_eq, Option.some.injEq]
  exact (Rat.den_pos _).ne'

/-- An epoch that is not scored has no eligible endpoint. -/
theorem Valid.not_eligible (h : e.Valid) (hstatus : e.epochStatus ≠ .scored) (ht : t ∈ e.endpoints) :
    t.disposition ≠ .eligible := by
  intro helig
  have hst : e.epochStatus = if e.judgement.commonMode then .commonModeUnavailable
      else if e.endpoints.countP (fun row => row.disposition = .eligible) = 0 then .noEligibleEndpoints
      else .scored := by
    have hendpoints := congrArg StaticDerived.endpoints h.derived.2.2
    change e.endpoints = _ at hendpoints
    rw [hendpoints]
    exact congrArg StaticDerived.epochStatus h.derived.2.2
  obtain ⟨item, -, hrow⟩ := h.mem_endpoints ht
  have hdisposition : t.disposition = e.judgement.disposition (tallyOf e.observations item) := by
    rw [hrow]
    rfl
  by_cases hmode : e.judgement.commonMode = true
  · rw [hdisposition, Judgement.disposition, if_pos hmode] at helig
    split at helig <;> cases helig
  · rw [if_neg hmode, if_neg] at hst
    · exact hstatus hst
    · have hpos : 0 < e.endpoints.countP (fun row => decide (row.disposition = .eligible)) := by
        apply List.countP_pos_iff.mpr
        exact ⟨t, ht, decide_eq_true helig⟩
      omega

end StaticEpochScore

/-! ## The windows that are sealed -/

/-- The preconditions on the epochs of a window. -/
structure Windowed (epochs : List StaticEpochScore) : Prop where
  epochsValid : ∀ e ∈ epochs, e.Valid
  nonempty : epochs ≠ []
  few : epochs.length ≤ maxEpochs
  distinct : (epochs.map StaticEpochScore.epochIndex).Nodup
  oneLength : ∀ a ∈ epochs, ∀ b ∈ epochs, a.epochSeconds = b.epochSeconds
  oneValidator : ∀ a ∈ epochs, ∀ b ∈ epochs, a.validatorHotkey = b.validatorHotkey
  oneNetwork : ∀ a ∈ epochs, ∀ b ∈ epochs, a.network = b.network ∧ a.netuid = b.netuid

/-- The UIDs and hotkeys of all endpoints, eligible or not. -/
def identitiesOf (epochs : List StaticEpochScore) : List (ℤ × String) :=
  (endpointsOf epochs).map fun t => (t.minerUID, t.minerHotkey)

/-- What the loop of the window reads. -/
def rowsOf (epochs : List StaticEpochScore) : List EndpointEpoch :=
  (endpointsOf epochs).map StaticEndpointTally.view

/-- The epochs in the order of their indexes. -/
def sortedEpochs (epochs : List StaticEpochScore) : List StaticEpochScore :=
  Sorting.sortOn StaticEpochScore.epochIndex epochs

/-- The bounds on the size of a window. -/
def WindowFits (epochs : List StaticEpochScore) : Prop :=
  (windowMiners (rowsOf epochs)).length ≤ maxEndpoints ∧ (faultRows epochs).length ≤ maxObservations ∧
    (fraudRows epochs).length ≤ maxObservations

/-- The window of the epochs, as it is sealed; `first` is any of them. -/
def windowOf (first : StaticEpochScore) (epochs : List StaticEpochScore) : StaticAvailabilityScore :=
  windowRecord first (sortedEpochs epochs) (windowMiners (rowsOf (sortedEpochs epochs)))

section Window

variable {epochs epochs' : List StaticEpochScore}

/-- The preconditions do not depend on the order of the epochs. -/
lemma Windowed.perm (h : Windowed epochs) (hperm : epochs.Perm epochs') : Windowed epochs' where
  epochsValid e he := h.epochsValid e (hperm.mem_iff.mpr he)
  nonempty hnil := h.nonempty (List.Perm.eq_nil (hnil ▸ hperm))
  few := hperm.length_eq ▸ h.few
  distinct := (hperm.map _).nodup_iff.mp h.distinct
  oneLength a ha b hb := h.oneLength a (hperm.mem_iff.mpr ha) b (hperm.mem_iff.mpr hb)
  oneValidator a ha b hb := h.oneValidator a (hperm.mem_iff.mpr ha) b (hperm.mem_iff.mpr hb)
  oneNetwork a ha b hb := h.oneNetwork a (hperm.mem_iff.mpr ha) b (hperm.mem_iff.mpr hb)

lemma rowsOf_perm (hperm : epochs.Perm epochs') : (rowsOf epochs).Perm (rowsOf epochs') :=
  (hperm.flatMap_right _).map _

lemma windowFits_perm (hperm : epochs.Perm epochs') (h : WindowFits epochs) : WindowFits epochs' := by
  have hminers : (windowMiners (rowsOf epochs)).length = (windowMiners (rowsOf epochs')).length := by
    rw [windowMiners, windowMiners, List.length_map, List.length_map]
    apply congrArg List.length
    apply Sorting.sortedSet_congr
    intro key
    exact (((rowsOf_perm hperm).filter _).map _).mem_iff
  refine ⟨hminers ▸ h.1, ?_, ?_⟩
  · exact (hperm.flatMap_right _).length_eq ▸ h.2.1
  · exact (hperm.flatMap_right _).length_eq ▸ h.2.2

/-- The miners the loop reads are those of the endpoints. -/
lemma map_miner_rowsOf (epochs : List StaticEpochScore) :
    (rowsOf epochs).map EndpointEpoch.miner = identitiesOf epochs := by
  rw [rowsOf, List.map_map]
  rfl

/-- An eligible row is that of an eligible endpoint. -/
lemma Windowed.eligible (h : Windowed epochs) {row : EndpointEpoch} (hrow : row ∈ rowsOf epochs)
    (helig : row.eligible = true) : row.Measured ∧ 0 ≤ row.ratio ∧ row.ratio ≤ 1 := by
  obtain ⟨t, ht, rfl⟩ := List.mem_map.mp hrow
  obtain ⟨e, he, ht⟩ := List.mem_flatMap.mp ht
  obtain ⟨hmeasured, -, hbounds⟩ := (h.epochsValid e he).availability ht (of_decide_eq_true helig)
  exact ⟨hmeasured, hbounds⟩

/-- The number of endpoints of a window. -/
lemma Windowed.length_endpoints (h : Windowed epochs) :
    (endpointsOf epochs).length ≤ maxEndpoints * maxEpochs := by
  have hsum : (epochs.map fun e => e.endpoints.length).sum ≤ epochs.length • maxEndpoints := by
    rw [← List.length_map (f := fun e : StaticEpochScore => e.endpoints.length)]
    apply List.sum_le_card_nsmul
    intro n hn
    obtain ⟨e, he, rfl⟩ := List.mem_map.mp hn
    exact (h.epochsValid e he).1.2.2.2.2.2.2.2.2.2.2.2.1.1
  rw [endpointsOf, List.length_flatMap]
  calc _ ≤ epochs.length • maxEndpoints := hsum
    _ = maxEndpoints * epochs.length := by rw [nsmul_eq_mul, Nat.cast_id, Nat.mul_comm]
    _ ≤ maxEndpoints * maxEpochs := Nat.mul_le_mul_left _ h.few

/-- The rows of the miners satisfy their contract. -/
lemma Windowed.miners_valid (h : Windowed epochs) {m : MinerMean} (hm : m ∈ windowMiners (rowsOf epochs))
    (faults frauds : ℕ) :
    StaticMinerAvailability.Valid { m with contentFaults := faults, fraudulentAttestations := frauds } := by
  obtain ⟨row, hrow, helig, rfl⟩ := Scoring.mem_windowMiners.mp hm
  have hbounds : ∀ r ∈ Scoring.eligibleOf (rowsOf epochs) row.key, 0 ≤ r.ratio ∧ r.ratio ≤ 1 := by
    intro r hr
    obtain ⟨hmem, hr⟩ := List.mem_filter.mp (List.mem_of_mem_filter hr)
    exact (h.eligible hmem hr).2
  have hcount : (Scoring.eligibleOf (rowsOf epochs) row.key).length ≤ maxEndpoints * maxEpochs := by
    refine le_trans ?_ h.length_endpoints
    refine le_trans (List.length_filter_le _ _) (le_trans (List.length_filter_le _ _) ?_)
    rw [rowsOf, List.length_map]
  obtain ⟨t, ht, rfl⟩ := List.mem_map.mp hrow
  obtain ⟨e, he, ht⟩ := List.mem_flatMap.mp ht
  have hvalid : t.Valid := (h.epochsValid e he).1.2.2.2.2.2.2.2.2.2.2.2.1.2 t ht
  refine ⟨hvalid.2.2.2.1, hvalid.2.2.2.2.1, ⟨Scoring.eligibleOf_pos hrow helig, hcount⟩, ?_, ?_⟩
  · exact Rat.den_pos _
  · exact Scoring.reduced_sealMean (Scoring.meanOf_bounds hbounds)

/-- **The window of the sorted epochs satisfies its contract** exactly when it fits. -/
lemma windowRecord_valid_iff (h : Windowed epochs)
    (hsorted : (epochs.map StaticEpochScore.epochIndex).Pairwise (· < ·))
    (hpair : Dict.OneToOne (identitiesOf epochs)) {e : StaticEpochScore} (he : e ∈ epochs) :
    (windowRecord e epochs (windowMiners (rowsOf epochs))).Valid ↔ WindowFits epochs := by
  set s := windowRecord e epochs (windowMiners (rowsOf epochs)) with hs
  have hminers : s.miners.length = (windowMiners (rowsOf epochs)).length := List.length_map _
  have hfaults : s.contentFaultEvidence.length = (faultRows epochs).length := Sorting.length_sortOn
  have hfrauds : s.fraudEvidence.length = (fraudRows epochs).length := Sorting.length_sortOn
  have hmeans : s.miners.map (fun m => m.toMinerMean) = windowMiners (rowsOf epochs) := by
    rw [hs, windowRecord, List.map_map]
    exact List.map_id _
  have hkeys : s.miners.map (fun m => m.toMinerMean.key) =
      (windowMiners (rowsOf epochs)).map MinerMean.key := by
    rw [← hmeans, List.map_map]
    rfl
  have hhotkeys : s.miners.map (fun m => m.minerHotkey) =
      (windowMiners (rowsOf epochs)).map MinerMean.minerHotkey := by
    rw [← hmeans, List.map_map]
    rfl
  constructor
  · rintro ⟨hfields, -⟩
    obtain ⟨-, -, -, -, -, -, -, -, -, hcount, -, hfaultCount, hfraudCount, -⟩ := hfields
    exact ⟨hminers ▸ hcount, hfaults ▸ hfaultCount.1, hfrauds ▸ hfraudCount.1⟩
  · rintro ⟨hfew, hfaultRows, hfraudRows⟩
    obtain ⟨hnetid, hhotkey, hseconds, -⟩ := (h.epochsValid e he).1
    obtain ⟨-, -, -, -, -, -, -, hnetwork⟩ := (h.epochsValid e he).2.1
    have hone : 1 ≤ epochs.length := List.length_pos_of_mem he
    have habstained : s.abstainedEpochs.Sublist s.epochIndexes := List.Sublist.map _ List.filter_sublist
    have hindexes : ∀ n ∈ s.epochIndexes, 0 ≤ n ∧ n ≤ 2 ^ 62 := by
      intro n hn
      obtain ⟨e', he', rfl⟩ := List.mem_map.mp hn
      exact (h.epochsValid e' he').1.2.2.2.1
    have hlength : s.epochIndexes.length = epochs.length := List.length_map _
    have hdigests : s.epochScoreDigests.length = epochs.length := List.length_map _
    refine ⟨⟨hnetid, hhotkey, hseconds, ?_, hindexes, ?_, ?_, ?_, ?_, hminers.trans_le hfew, ?_,
      ⟨hfaults.trans_le hfaultRows, ?_⟩, ⟨hfrauds.trans_le hfraudRows, ?_⟩, hex64_digest _⟩, hnetwork, ?_, ?_,
      habstained.subset, ?_, ?_, ?_, rfl⟩
    · rw [hlength]
      exact ⟨hone, h.few⟩
    · rw [hdigests]
      exact ⟨hone, h.few⟩
    · intro d hd
      obtain ⟨e', he', rfl⟩ := List.mem_map.mp hd
      obtain ⟨-, -, -, -, -, -, -, -, -, -, -, -, -, -, -, -, -, -, -, -, -, hdigest⟩ := (h.epochsValid e' he').1
      exact hdigest
    · exact le_trans habstained.length_le (hlength.trans_le h.few)
    · exact fun n hn => hindexes n (habstained.subset hn)
    · intro m hm
      obtain ⟨mean, hmean, rfl⟩ := List.mem_map.mp hm
      exact h.miners_valid hmean _ _
    · intro row hrow
      obtain ⟨e', he', hrow⟩ := List.mem_flatMap.mp (Sorting.mem_sortOn.mp hrow)
      obtain ⟨-, -, -, -, -, -, -, -, -, -, -, -, hevidence, -⟩ := (h.epochsValid e' he').1
      exact hevidence.2 row hrow
    · intro row hrow
      obtain ⟨e', he', hrow⟩ := List.mem_flatMap.mp (Sorting.mem_sortOn.mp hrow)
      obtain ⟨-, -, -, -, -, -, -, -, -, -, -, -, -, hevidence, -⟩ := (h.epochsValid e' he').1
      exact hevidence.2 row hrow
    · exact Sorting.eq_sortedSet_iff.mpr hsorted
    · rw [hlength, hdigests]
    · exact Sorting.eq_sortedSet_iff.mpr (hsorted.sublist habstained)
    · rw [hkeys, Scoring.keys_windowMiners, Sorting.sortedSet_idem]
    · rw [hhotkeys]
      apply Scoring.nodup_hotkeys_windowMiners
      rwa [map_miner_rowsOf]

lemma sortedEpochs_perm (epochs : List StaticEpochScore) : (sortedEpochs epochs).Perm epochs :=
  Sorting.sortOn_perm _ _

lemma identitiesOf_perm (hperm : epochs.Perm epochs') (h : Dict.OneToOne (identitiesOf epochs)) :
    Dict.OneToOne (identitiesOf epochs') :=
  h.mono fun _ hp => ((hperm.flatMap_right _).map _).mem_iff.mpr hp

/-- The checks of the sorted epochs against the first one. -/
lemma checks_iff {first : StaticEpochScore} {rest : List StaticEpochScore}
    (hvalid : ∀ e ∈ first :: rest, e.Valid) :
    Windowed (first :: rest) ↔ (first :: rest).length ≤ maxEpochs ∧
      ((first :: rest).map StaticEpochScore.epochIndex).Nodup ∧
      (∀ item ∈ first :: rest, item.epochSeconds = first.epochSeconds) ∧
      (∀ item ∈ first :: rest, item.validatorHotkey = first.validatorHotkey) ∧
      ∀ item ∈ first :: rest, (item.network, item.netuid) = (first.network, first.netuid) := by
  have hmem : first ∈ first :: rest := List.mem_cons_self
  constructor
  · intro h
    refine ⟨h.few, h.distinct, fun item hitem => h.oneLength item hitem first hmem,
      fun item hitem => h.oneValidator item hitem first hmem, fun item hitem => ?_⟩
    obtain ⟨hnetwork, hnetuid⟩ := h.oneNetwork item hitem first hmem
    rw [hnetwork, hnetuid]
  · rintro ⟨hfew, hdistinct, hseconds, hvalidator, hnetwork⟩
    refine ⟨hvalid, List.cons_ne_nil _ _, hfew, hdistinct,
      fun a ha b hb => (hseconds a ha).trans (hseconds b hb).symm,
      fun a ha b hb => (hvalidator a ha).trans (hvalidator b hb).symm, fun a ha b hb => ?_⟩
    exact Prod.mk.inj ((hnetwork a ha).trans (hnetwork b hb).symm)

/-- The window of the sorted epochs, once the checks have passed. -/
lemma aggregateSorted_of_windowed {first : StaticEpochScore} {rest : List StaticEpochScore}
    (h : Windowed (first :: rest)) :
    aggregateSorted (first :: rest) = (do
      let means ← (windowMeans (rowsOf (first :: rest))).mapError ofWindowRejection
      let record := windowRecord first (first :: rest) means
      revalidate StaticAvailabilityScore.Valid record
      return record) := by
  obtain ⟨hfew, hdistinct, hseconds, hvalidator, hnetwork⟩ := (checks_iff h.epochsValid).mp h
  have hfew' : ¬ (first :: rest).length > maxEpochs := not_lt.mpr hfew
  have hepochs : ¬ (¬ ((first :: rest).map StaticEpochScore.epochIndex).Nodup ∨
      ∃ item ∈ first :: rest, item.epochSeconds ≠ first.epochSeconds) := by
    rintro (hdup | ⟨item, hitem, hne⟩)
    · exact hdup hdistinct
    · exact hne (hseconds item hitem)
  have hvalidators : ¬ ∃ item ∈ first :: rest, item.validatorHotkey ≠ first.validatorHotkey := by
    rintro ⟨item, hitem, hne⟩
    exact hne (hvalidator item hitem)
  have hnetworks : ¬ ∃ item ∈ first :: rest, (item.network, item.netuid) ≠ (first.network, first.netuid) := by
    rintro ⟨item, hitem, hne⟩
    exact hne (hnetwork item hitem)
  rw [aggregateSorted]
  simp only [reject, if_neg hfew', if_neg hepochs, if_neg hvalidators, if_neg hnetworks]
  rfl

/-- One epoch speaks for the window like any other. -/
lemma Windowed.windowRecord_eq (h : Windowed epochs) {a b : StaticEpochScore} (ha : a ∈ epochs) (hb : b ∈ epochs)
    (means : List MinerMean) : windowRecord a epochs means = windowRecord b epochs means := by
  obtain ⟨hnetwork, hnetuid⟩ := h.oneNetwork a ha b hb
  rw [windowRecord, windowRecord, h.oneLength a ha b hb, h.oneValidator a ha b hb, hnetwork, hnetuid]

/-- **The sorted epochs that are sealed into a window.** -/
lemma aggregateSorted_eq_ok {s : StaticAvailabilityScore} (hvalid : ∀ e ∈ epochs, e.Valid)
    (hsorted : (epochs.map StaticEpochScore.epochIndex).Pairwise (· ≤ ·)) :
    aggregateSorted epochs = .ok s ↔ Windowed epochs ∧ Dict.OneToOne (identitiesOf epochs) ∧
      WindowFits epochs ∧ ∃ e ∈ epochs, s = windowRecord e epochs (windowMiners (rowsOf epochs)) := by
  cases epochs with
  | nil =>
    constructor
    · intro h
      cases h
    · rintro ⟨h, -⟩
      exact absurd rfl h.nonempty
  | cons first rest =>
    have hmem : first ∈ first :: rest := List.mem_cons_self
    have hstrict (hw : Windowed (first :: rest)) :
        ((first :: rest).map StaticEpochScore.epochIndex).Pairwise (· < ·) :=
      hsorted.imp₂ (fun _ _ hle hne => lt_of_le_of_ne hle hne) hw.distinct
    constructor
    · intro h
      have hw : Windowed (first :: rest) := by
        rw [checks_iff hvalid]
        rw [aggregateSorted] at h
        simp only [Except.bind_eq_ok, Except.reject_eq_ok, exists_const] at h
        obtain ⟨hfew, hepochs, hvalidators, hnetworks, -⟩ := h
        push Not at hfew hepochs hvalidators hnetworks
        exact ⟨hfew, hepochs.1, hepochs.2, hvalidators, hnetworks⟩
      rw [aggregateSorted_of_windowed hw] at h
      simp only [Except.bind_eq_ok, Except.mapError_eq_ok, Scoring.windowMeans_eq_ok, revalidate_eq_ok,
        exists_const] at h
      obtain ⟨means, ⟨hconsistent, rfl⟩, hrecord, hs⟩ := h
      have hpair : Dict.OneToOne (identitiesOf (first :: rest)) := map_miner_rowsOf _ ▸ hconsistent.1
      exact ⟨hw, hpair, (windowRecord_valid_iff hw (hstrict hw) hpair hmem).mp hrecord, first, hmem,
        (Except.ok.inj hs).symm⟩
    · rintro ⟨hw, hpair, hfits, e, he, rfl⟩
      rw [aggregateSorted_of_windowed hw]
      simp only [Except.bind_eq_ok, Except.mapError_eq_ok, Scoring.windowMeans_eq_ok, revalidate_eq_ok,
        exists_const]
      refine ⟨_, ⟨⟨map_miner_rowsOf _ ▸ hpair, fun row hrow helig => (hw.eligible hrow helig).1⟩, rfl⟩,
        (windowRecord_valid_iff hw (hstrict hw) hpair hmem).mpr hfits, ?_⟩
      exact congrArg Except.ok (hw.windowRecord_eq hmem he _)

/-- **The windows that are sealed, and what is sealed.** -/
theorem aggregateStaticWindow_eq_ok {s : StaticAvailabilityScore} :
    aggregateStaticWindow epochs = .ok s ↔ Windowed epochs ∧ Dict.OneToOne (identitiesOf epochs) ∧
      WindowFits epochs ∧ ∃ e ∈ epochs, s = windowOf e epochs := by
  have hperm := sortedEpochs_perm epochs
  have hsorted : ((sortedEpochs epochs).map StaticEpochScore.epochIndex).Pairwise (· ≤ ·) :=
    List.pairwise_map.mpr (Sorting.pairwise_sortOn _ _)
  have hrevalidated : epochs.forM (revalidate StaticEpochScore.Valid) = .ok () ↔ ∀ e ∈ epochs, e.Valid := by
    simp only [Except.forM_eq_ok, revalidate_eq_ok]
  rw [aggregateStaticWindow, Except.bind_eq_ok]
  simp only [hrevalidated, exists_const]
  constructor
  · rintro ⟨hvalid, h⟩
    obtain ⟨hw, hpair, hfits, e, he, hs⟩ :=
      (aggregateSorted_eq_ok (fun e he => hvalid e (hperm.mem_iff.mp he)) hsorted).mp h
    exact ⟨hw.perm hperm, identitiesOf_perm hperm hpair, windowFits_perm hperm hfits, e, hperm.mem_iff.mp he, hs⟩
  · rintro ⟨hw, hpair, hfits, e, he, hs⟩
    refine ⟨hw.epochsValid, ?_⟩
    rw [← sortedEpochs, aggregateSorted_eq_ok (hw.perm hperm.symm).epochsValid hsorted]
    exact ⟨hw.perm hperm.symm, identitiesOf_perm hperm.symm hpair, windowFits_perm hperm.symm hfits, e,
      hperm.mem_iff.mpr he, hs⟩

/-- **A window is refused for an identity conflict exactly when UIDs and hotkeys are not paired one to
one** over all endpoints of all epochs. -/
theorem aggregateStaticWindow_conflict (h : Windowed epochs) :
    aggregateStaticWindow epochs = .error (.scoring .identityConflict) ↔
      ¬ Dict.OneToOne (identitiesOf epochs) := by
  have hperm := sortedEpochs_perm epochs
  have hw := h.perm hperm.symm
  have hrevalidated : epochs.forM (revalidate StaticEpochScore.Valid) = .ok () := by
    simp only [Except.forM_eq_ok, revalidate_eq_ok]
    exact h.epochsValid
  have hone : Dict.OneToOne (identitiesOf (sortedEpochs epochs)) ↔ Dict.OneToOne (identitiesOf epochs) :=
    ⟨identitiesOf_perm hperm, identitiesOf_perm hperm.symm⟩
  have hrun : aggregateStaticWindow epochs = aggregateSorted (sortedEpochs epochs) := by
    rw [aggregateStaticWindow, hrevalidated]
    rfl
  rw [hrun, ← hone]
  cases hvalues : sortedEpochs epochs with
  | nil => exact absurd hvalues hw.nonempty
  | cons first rest =>
    rw [hvalues] at hw
    rw [aggregateSorted_of_windowed hw]
    cases hmeans : windowMeans (rowsOf (first :: rest)) with
    | ok means =>
      have hpair := (Scoring.windowMeans_eq_ok.mp hmeans).1.1
      rw [map_miner_rowsOf] at hpair
      constructor
      · intro hfail
        simp only [Except.mapError, revalidate, reject, bind, Except.bind] at hfail
        split at hfail
        · rename_i hinvalid
          split at hinvalid <;> cases hinvalid
          cases hfail
        · cases hfail
      · intro hneg
        exact absurd hpair hneg
    | error code =>
      obtain ⟨rfl, hpair⟩ :=
        (Scoring.windowMeans_eq_error fun row hrow helig => (hw.eligible hrow helig).1).mp hmeans
      rw [map_miner_rowsOf] at hpair
      exact ⟨fun _ => hpair, fun _ => rfl⟩

end Window

end StaticScoring

end Misscomputer
