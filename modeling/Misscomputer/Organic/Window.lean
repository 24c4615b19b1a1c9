import Misscomputer.Organic.Epochs
import Misscomputer.Scoring.Means

set_option relaxedAutoImplicit false
set_option autoImplicit false

/-!
# The organic window

The availability of each miner over a window of sealed epochs, and the evidence of fraud in it.

## Main definitions

* `Organic.OrganicAvailabilityScore` — the sealed window.
* `Organic.aggregateOrganicWindow` — the window of a list of epochs.
* `Organic.Windowed` — the preconditions on the epochs.

## Main results

* `Organic.aggregateOrganicWindow_eq_ok` — the windows that are sealed, and what is sealed.
* `Organic.aggregateOrganicWindow_conflict` — a window is refused for an identity conflict exactly when
  UIDs and hotkeys are not paired one to one.
* `Organic.OrganicEpochScore.Valid.frauds` — the counters of an epoch's endpoints count its evidence.

## References

* `src/misscomputer_subnet/organic_scoring.py`
-/

namespace Misscomputer

namespace Organic

open Contract
open Except (reject)
open Scoring (EndpointEpoch MinerMean Reduced WindowRejection windowMeans windowMiners)

/-! ## The sealed window -/

/-- `MAX_EPOCHS`. -/
def maxEpochs : ℕ := 2016

/-- `MinerAvailability`. -/
structure MinerAvailability extends MinerMean where
  fraudulentAttestations : ℕ
deriving DecidableEq

/-- `OrganicAvailabilityScore`. -/
structure OrganicAvailabilityScore where
  validatorHotkey : String
  epochSeconds : ℤ
  epochIndexes : List ℤ
  epochScoreDigests : List String
  abstainedEpochs : List ℤ
  miners : List MinerAvailability
  fraudEvidence : List FraudEvidence
  scoreDigestSha256 : String
deriving DecidableEq

/-- `model_document` of a miner's row. -/
def MinerAvailability.toJson (m : MinerAvailability) : Json :=
  document [("miner_uid", .num m.minerUID), ("miner_hotkey", text m.minerHotkey),
    ("eligible_endpoint_epochs", .num m.eligibleEndpointEpochs),
    ("availability_numerator", .num m.availabilityNumerator),
    ("availability_denominator", .num m.availabilityDenominator),
    ("fraudulent_attestations", .num m.fraudulentAttestations)]

/-- The members the digest of a window covers. -/
def OrganicAvailabilityScore.members (s : OrganicAvailabilityScore) : List (String × Json) :=
  [("schema", text "miss.computer/misscomputer-subnet/organic-availability-score"),
    ("schema_version", .num 1), ("purpose", text "organic_availability_scoring_v1"),
    ("network", text "finney"), ("netuid", .num 24), ("validator_hotkey", text s.validatorHotkey),
    ("epoch_seconds", .num s.epochSeconds), ("epoch_indexes", .arr (s.epochIndexes.map .num)),
    ("epoch_score_digests", .arr (s.epochScoreDigests.map text)),
    ("abstained_epochs", .arr (s.abstainedEpochs.map .num)),
    ("miners", .arr (s.miners.map MinerAvailability.toJson)),
    ("fraud_evidence", .arr (s.fraudEvidence.map FraudEvidence.toJson))]

/-- `organic_availability_score_bytes`. -/
def OrganicAvailabilityScore.bytes (s : OrganicAvailabilityScore) : List UInt8 :=
  canonicalJson (document (s.members ++ [("score_digest_sha256", text s.scoreDigestSha256)])) ++
    Text.bytes ['\n']

/-- The values of the contract. -/
def MinerAvailability.Valid (m : MinerAvailability) : Prop :=
  uid m.minerUID ∧ hotkey m.minerHotkey ∧
    (1 ≤ m.eligibleEndpointEpochs ∧ m.eligibleEndpointEpochs ≤ maxEndpoints * maxEpochs) ∧
    1 ≤ m.availabilityDenominator ∧ Reduced m.availabilityNumerator m.availabilityDenominator

instance (m : MinerAvailability) : Decidable m.Valid := by
  unfold MinerAvailability.Valid
  infer_instance

namespace OrganicAvailabilityScore

/-- The checks of the fields. -/
def FieldsValid (s : OrganicAvailabilityScore) : Prop :=
  hotkey s.validatorHotkey ∧ (60 ≤ s.epochSeconds ∧ s.epochSeconds ≤ 3600) ∧
    (1 ≤ s.epochIndexes.length ∧ s.epochIndexes.length ≤ maxEpochs) ∧
    (∀ n ∈ s.epochIndexes, 0 ≤ n ∧ n ≤ 2 ^ 62) ∧
    (1 ≤ s.epochScoreDigests.length ∧ s.epochScoreDigests.length ≤ maxEpochs) ∧
    (∀ d ∈ s.epochScoreDigests, hex64 d) ∧ s.abstainedEpochs.length ≤ maxEpochs ∧
    (∀ n ∈ s.abstainedEpochs, 0 ≤ n ∧ n ≤ 2 ^ 62) ∧ s.miners.length ≤ maxEndpoints ∧
    (∀ m ∈ s.miners, m.Valid) ∧ s.fraudEvidence.length ≤ maxObservations ∧
    (∀ row ∈ s.fraudEvidence, row.Valid) ∧ hex64 s.scoreDigestSha256

/-- `canonical_score`. -/
def Canonical (s : OrganicAvailabilityScore) : Prop :=
  s.epochIndexes = Sorting.sortedSet s.epochIndexes ∧
    s.epochScoreDigests.length = s.epochIndexes.length ∧
    (∀ n ∈ s.abstainedEpochs, n ∈ s.epochIndexes) ∧
    s.abstainedEpochs = Sorting.sortedSet s.abstainedEpochs ∧
    s.miners.map (fun m => m.toMinerMean.key) = Sorting.sortedSet (s.miners.map fun m => m.toMinerMean.key) ∧
    (s.miners.map fun m => m.minerHotkey).Nodup ∧ s.scoreDigestSha256 = digest (document s.members)

/-- The values of the contract. -/
def Valid (s : OrganicAvailabilityScore) : Prop := s.FieldsValid ∧ s.Canonical

instance (s : OrganicAvailabilityScore) : Decidable s.FieldsValid := by
  unfold FieldsValid
  infer_instance

instance (s : OrganicAvailabilityScore) : Decidable s.Canonical := by
  unfold Canonical
  infer_instance

instance (s : OrganicAvailabilityScore) : Decidable s.Valid := inferInstanceAs (Decidable (_ ∧ _))

end OrganicAvailabilityScore

/-! ## The aggregator -/

/-- What the window reads of an endpoint's row. -/
def EndpointEpochTally.view (t : EndpointEpochTally) : EndpointEpoch where
  minerUID := t.minerUID
  minerHotkey := t.minerHotkey
  eligible := t.disposition = .eligible
  availabilityNumerator := t.availabilityNumerator
  availabilityDenominator := t.availabilityDenominator

/-- The rejection of a window in the words of the organic scorer. -/
def ofWindowRejection : WindowRejection → ScoringFailure
  | .identityConflict => .scoring .identityConflict
  | .outcomeInconsistent => .scoring .outcomeInconsistent

/-- The endpoints of a list of epochs. -/
def endpointsOf (epochs : List OrganicEpochScore) : List EndpointEpochTally :=
  epochs.flatMap fun e => e.endpoints

/-- `fraud_counts`. -/
def fraudCounts (endpoints : List EndpointEpochTally) : Dict String ℕ :=
  Dict.collect EndpointEpochTally.minerHotkey (fun n t => n.getD 0 + t.fraudulentAttestations) endpoints

/-- The window that is sealed, before its own contract is checked. -/
def windowRecord (validatorHotkey : String) (epochSeconds : ℤ) (values : List OrganicEpochScore)
    (means : List MinerMean) : OrganicAvailabilityScore :=
  let unsigned : OrganicAvailabilityScore :=
    { validatorHotkey := validatorHotkey
      epochSeconds := epochSeconds
      epochIndexes := values.map OrganicEpochScore.epochIndex
      epochScoreDigests := values.map OrganicEpochScore.epochScoreDigestSha256
      abstainedEpochs := (values.filter fun e => e.epochStatus ≠ .scored).map OrganicEpochScore.epochIndex
      miners := means.map fun m =>
        { m with fraudulentAttestations := ((fraudCounts (endpointsOf values)).get m.minerHotkey).getD 0 }
      fraudEvidence := Sorting.sortOn FraudEvidence.observationDigestSha256
        (values.flatMap fun e => e.fraudEvidence)
      scoreDigestSha256 := "" }
  { unsigned with scoreDigestSha256 := digest (document unsigned.members) }

/-- The window of the sorted epochs. -/
def aggregateSorted : List OrganicEpochScore → Except ScoringFailure OrganicAvailabilityScore
  | [] => .error (.scoring .epochsInvalid)
  | first :: rest => do
    let values := first :: rest
    reject (values.length > maxEpochs) (.scoring .epochsInvalid)
    reject (¬ (values.map OrganicEpochScore.epochIndex).Nodup ∨
      ∃ item ∈ values, item.epochSeconds ≠ first.epochSeconds) (.scoring .epochsInvalid)
    reject (∃ item ∈ values, item.validatorHotkey ≠ first.validatorHotkey) (.scoring .validatorMismatch)
    let means ← (windowMeans ((endpointsOf values).map EndpointEpochTally.view)).mapError ofWindowRejection
    let record := windowRecord first.validatorHotkey first.epochSeconds values means
    revalidate OrganicAvailabilityScore.Valid record
    return record

/-- `aggregate_organic_window`. -/
def aggregateOrganicWindow (epochs : List OrganicEpochScore) :
    Except ScoringFailure OrganicAvailabilityScore := do
  epochs.forM (revalidate OrganicEpochScore.Valid)
  aggregateSorted (Sorting.sortOn OrganicEpochScore.epochIndex epochs)

/-! ## What a sealed epoch says -/

namespace OrganicEpochScore

variable {e : OrganicEpochScore} {t : EndpointEpochTally}

/-- A sealed epoch was derived from its observations. -/
lemma Valid.derived (h : e.Valid) : Tallied e.epochSeconds e.epochIndex e.observations ∧
    e.toDerived = summarize e.epochSeconds e.epochIndex e.minAttempts (ledger e.observations)
      e.corroboration :=
  deriveEpoch_eq_ok.mp h.2.2.2.2.2.2.2.1

lemma Valid.endpoints_eq (h : e.Valid) : e.endpoints =
    (Sorting.sortOn Prod.fst (ledger e.observations).tallies).map
      (endpointRow e.minAttempts (ledger e.observations).tallies
        (epochWindows e.epochSeconds e.epochIndex (ledger e.observations).tallies e.corroboration)) :=
  congrArg Derived.endpoints h.derived.2

/-- The rows of a sealed epoch. -/
lemma Valid.mem_endpoints (h : e.Valid) (ht : t ∈ e.endpoints) :
    ∃ entry ∈ (ledger e.observations).tallies,
      t = endpointRow e.minAttempts (ledger e.observations).tallies
        (epochWindows e.epochSeconds e.epochIndex (ledger e.observations).tallies e.corroboration) entry := by
  rw [h.endpoints_eq] at ht
  obtain ⟨entry, hentry, rfl⟩ := List.mem_map.mp ht
  exact ⟨entry, Sorting.mem_sortOn.mp hentry, rfl⟩

/-- **The availability of an eligible endpoint** is its successes over its attempts. -/
theorem Valid.availability (h : e.Valid) (ht : t ∈ e.endpoints) (helig : t.disposition = .eligible) :
    t.view.Measured ∧ t.view.ratio = (t.successes : ℚ) / (t.attempts : ℚ) ∧ 0 ≤ t.view.ratio ∧
      t.view.ratio ≤ 1 := by
  obtain ⟨⟨endpoint, tally⟩, hentry, rfl⟩ := h.mem_endpoints ht
  obtain ⟨first, -, -, rfl, -⟩ := exists_first hentry
  set l := ofEndpoint e.observations endpoint
  set n := l.countP fun o => o.attribution = .none with hn
  have hle : n ≤ l.length := List.countP_le_length
  obtain ⟨hvalue, hlow, hhigh⟩ := Scoring.ratio_of_counts hle
  have helig' : disposition e.minAttempts (ledger e.observations).tallies (Tally.of first l) = .eligible := helig
  have hratio : (endpointRow e.minAttempts (ledger e.observations).tallies
      (epochWindows e.epochSeconds e.epochIndex (ledger e.observations).tallies e.corroboration)
      (endpoint, Tally.of first l)).view.ratio = (n : ℚ) / (l.length : ℚ) := by
    simp only [EndpointEpoch.ratio, EndpointEpochTally.view, endpointRow, helig', if_true, Option.getD_some]
    exact hvalue
  refine ⟨?_, hratio, hratio ▸ hlow, hratio ▸ hhigh⟩
  simp only [EndpointEpoch.Measured, EndpointEpochTally.view, endpointRow, helig', if_true]
  refine ⟨by simp, by simp, ?_⟩
  rw [ne_eq, Option.some.injEq]
  exact (Rat.den_pos _).ne'

/-- An epoch that is not scored has no eligible endpoint. -/
theorem Valid.not_eligible (h : e.Valid) (hstatus : e.epochStatus ≠ .scored) (ht : t ∈ e.endpoints) :
    t.disposition ≠ .eligible := by
  intro helig
  have hst : e.epochStatus = if commonMode (ledger e.observations).tallies then .commonModeUnavailable
      else if e.endpoints.countP (fun row => row.disposition = .eligible) = 0 then .noEligibleEndpoints
      else .scored := by
    rw [h.endpoints_eq]
    exact congrArg Derived.epochStatus h.derived.2
  obtain ⟨⟨endpoint, tally⟩, -, hrow⟩ := h.mem_endpoints ht
  have hdisposition : t.disposition = disposition e.minAttempts (ledger e.observations).tallies tally := by
    rw [hrow]
    rfl
  by_cases hmode : commonMode (ledger e.observations).tallies
  · rw [hdisposition, disposition, if_pos hmode] at helig
    cases helig
  · rw [if_neg hmode, if_neg] at hst
    · exact hstatus hst
    · have hpos : 0 < e.endpoints.countP (fun row => decide (row.disposition = .eligible)) := by
        apply List.countP_pos_iff.mpr
        exact ⟨t, ht, decide_eq_true helig⟩
      omega

/-- **The counters of an epoch's endpoints count its evidence**, hotkey by hotkey.

**Proof sketch.** The endpoints of a hotkey are those whose observations name it, because an endpoint has
one identity; the counts of the endpoints add up to the count over all observations. -/
theorem Valid.frauds (h : e.Valid) (hotkey : String) :
    ((e.endpoints.filter fun t => t.minerHotkey = hotkey).map
        EndpointEpochTally.fraudulentAttestations).sum =
      e.fraudEvidence.countP fun row => row.minerHotkey = hotkey := by
  have hidentities := h.derived.1.identities
  have hevidence : e.fraudEvidence.countP (fun row => row.minerHotkey = hotkey) =
      e.observations.countP fun o => o.attestationStatus = .fraudulent ∧ o.minerHotkey = hotkey := by
    have heq : e.fraudEvidence = Sorting.sortOn FraudEvidence.observationDigestSha256
        (ledger e.observations).fraud := congrArg Derived.fraudEvidence h.derived.2
    rw [heq, (Sorting.sortOn_perm _ _).countP_eq, ledger, List.countP_map, List.countP_filter]
    congr 1
    funext o
    simp only [fraudRow, Function.comp_apply, Bool.decide_and]
    exact Bool.and_comm _ _
  have hrow : ∀ entry ∈ (ledger e.observations).tallies,
      (if entry.2.minerHotkey = hotkey then entry.2.frauds else 0) =
        (ofEndpoint e.observations entry.1).countP
          fun o => o.attestationStatus = .fraudulent ∧ o.minerHotkey = hotkey := by
    rintro ⟨endpoint, tally⟩ hentry
    obtain ⟨first, hfirst, hend, rfl, -⟩ := exists_first hentry
    have hsame : ∀ o ∈ ofEndpoint e.observations endpoint, o.minerHotkey = first.minerHotkey := by
      intro o ho
      rw [ofEndpoint, List.mem_filter, decide_eq_true_eq] at ho
      have hid := hidentities o ho.1 first hfirst (ho.2.trans hend.symm)
      exact congrArg (fun i => i.2.2) hid
    by_cases hk : first.minerHotkey = hotkey
    · simp only [Tally.of, hk, if_true]
      apply List.countP_congr
      intro o ho
      simp [hsame o ho, hk]
    · simp only [Tally.of, hk, if_false]
      rw [eq_comm, List.countP_eq_zero]
      intro o ho
      simp [hsame o ho, hk]
  have hkeys : (ledger e.observations).tallies.map (fun entry =>
      if entry.2.minerHotkey = hotkey then entry.2.frauds else 0) =
      (ledger e.observations).tallies.keys.map fun k => (e.observations.filter fun o => o.endpointID = k).countP
        fun o => o.attestationStatus = .fraudulent ∧ o.minerHotkey = hotkey := by
    rw [Dict.keys, List.map_map]
    exact List.map_congr_left hrow
  have hcovered : ∀ o ∈ e.observations, o.endpointID ∈ (ledger e.observations).tallies.keys :=
    fun o ho => mem_keys_tallies.mpr ⟨o, ho, rfl⟩
  rw [hevidence, ← Dict.sum_countP (nodup_keys_tallies e.observations) hcovered, ← hkeys, h.endpoints_eq,
    List.filter_map, List.map_map]
  have hperm := (Sorting.sortOn_perm Prod.fst (ledger e.observations).tallies)
  rw [← (hperm.map _).sum_eq]
  induction Sorting.sortOn Prod.fst (ledger e.observations).tallies with
  | nil => rfl
  | cons entry entries ih =>
    rw [List.filter_cons, List.map_cons, List.sum_cons, ← ih]
    by_cases hk : entry.2.minerHotkey = hotkey
    · simp [endpointRow, hk]
    · simp [endpointRow, hk]

end OrganicEpochScore

/-! ## The windows that are sealed -/

/-- The preconditions on the epochs of a window. -/
structure Windowed (epochs : List OrganicEpochScore) : Prop where
  epochsValid : ∀ e ∈ epochs, e.Valid
  nonempty : epochs ≠ []
  few : epochs.length ≤ maxEpochs
  distinct : (epochs.map OrganicEpochScore.epochIndex).Nodup
  oneLength : ∀ a ∈ epochs, ∀ b ∈ epochs, a.epochSeconds = b.epochSeconds
  oneValidator : ∀ a ∈ epochs, ∀ b ∈ epochs, a.validatorHotkey = b.validatorHotkey

/-- The UIDs and hotkeys of all endpoints, eligible or not. -/
def identitiesOf (epochs : List OrganicEpochScore) : List (ℤ × String) :=
  (endpointsOf epochs).map fun t => (t.minerUID, t.minerHotkey)

/-- What the loop of the window reads. -/
def rowsOf (epochs : List OrganicEpochScore) : List EndpointEpoch :=
  (endpointsOf epochs).map EndpointEpochTally.view

/-- The epochs in the order of their indexes. -/
def sortedEpochs (epochs : List OrganicEpochScore) : List OrganicEpochScore :=
  Sorting.sortOn OrganicEpochScore.epochIndex epochs

/-- The bounds on the size of a window. -/
def WindowFits (epochs : List OrganicEpochScore) : Prop :=
  (windowMiners (rowsOf epochs)).length ≤ maxEndpoints ∧
    (epochs.flatMap fun e => e.fraudEvidence).length ≤ maxObservations

/-- The window of the epochs, as it is sealed. -/
def windowOf (validatorHotkey : String) (epochSeconds : ℤ) (epochs : List OrganicEpochScore) :
    OrganicAvailabilityScore :=
  windowRecord validatorHotkey epochSeconds (sortedEpochs epochs) (windowMiners (rowsOf (sortedEpochs epochs)))

section Window

variable {epochs epochs' : List OrganicEpochScore}

/-- The preconditions do not depend on the order of the epochs. -/
lemma Windowed.perm (h : Windowed epochs) (hperm : epochs.Perm epochs') : Windowed epochs' where
  epochsValid e he := h.epochsValid e (hperm.mem_iff.mpr he)
  nonempty hnil := h.nonempty (List.Perm.eq_nil (hnil ▸ hperm))
  few := hperm.length_eq ▸ h.few
  distinct := (hperm.map _).nodup_iff.mp h.distinct
  oneLength a ha b hb := h.oneLength a (hperm.mem_iff.mpr ha) b (hperm.mem_iff.mpr hb)
  oneValidator a ha b hb := h.oneValidator a (hperm.mem_iff.mpr ha) b (hperm.mem_iff.mpr hb)

lemma rowsOf_perm (hperm : epochs.Perm epochs') : (rowsOf epochs).Perm (rowsOf epochs') :=
  (hperm.flatMap_right _).map _

lemma windowFits_perm (hperm : epochs.Perm epochs') (h : WindowFits epochs) : WindowFits epochs' := by
  have hminers : (windowMiners (rowsOf epochs)).length = (windowMiners (rowsOf epochs')).length := by
    rw [windowMiners, windowMiners, List.length_map, List.length_map]
    apply congrArg List.length
    apply Sorting.sortedSet_congr
    intro key
    exact (((rowsOf_perm hperm).filter _).map _).mem_iff
  exact ⟨hminers ▸ h.1, (hperm.flatMap_right _).length_eq ▸ h.2⟩

/-- The miners the loop reads are those of the endpoints. -/
lemma map_miner_rowsOf (epochs : List OrganicEpochScore) :
    (rowsOf epochs).map EndpointEpoch.miner = identitiesOf epochs := by
  rw [rowsOf, List.map_map]
  rfl

/-- The eligible endpoints of sealed epochs have an availability. -/
lemma Windowed.measured (h : Windowed epochs) : ∀ row ∈ rowsOf epochs, row.eligible = true → row.Measured := by
  intro row hrow helig
  obtain ⟨t, ht, rfl⟩ := List.mem_map.mp hrow
  obtain ⟨e, he, ht⟩ := List.mem_flatMap.mp ht
  exact ((h.epochsValid e he).availability ht (of_decide_eq_true helig)).1

/-- The number of endpoints of a window. -/
lemma Windowed.length_endpoints (h : Windowed epochs) :
    (endpointsOf epochs).length ≤ maxEndpoints * maxEpochs := by
  have hsum : (epochs.map fun e => e.endpoints.length).sum ≤ epochs.length • maxEndpoints := by
    rw [← List.length_map (f := fun e : OrganicEpochScore => e.endpoints.length)]
    apply List.sum_le_card_nsmul
    intro n hn
    obtain ⟨e, he, rfl⟩ := List.mem_map.mp hn
    exact (h.epochsValid e he).1.2.2.2.2.2.2.2.2.2.2.1
  rw [endpointsOf, List.length_flatMap]
  calc _ ≤ epochs.length • maxEndpoints := hsum
    _ = maxEndpoints * epochs.length := by rw [nsmul_eq_mul, Nat.cast_id, Nat.mul_comm]
    _ ≤ maxEndpoints * maxEpochs := Nat.mul_le_mul_left _ h.few

/-- The availability of an eligible row lies between zero and one. -/
lemma Windowed.ratio_bounds (h : Windowed epochs) {row : EndpointEpoch} (hrow : row ∈ rowsOf epochs)
    (helig : row.eligible = true) : 0 ≤ row.ratio ∧ row.ratio ≤ 1 := by
  obtain ⟨t, ht, rfl⟩ := List.mem_map.mp hrow
  obtain ⟨e, he, ht⟩ := List.mem_flatMap.mp ht
  exact ((h.epochsValid e he).availability ht (of_decide_eq_true helig)).2.2

/-- The rows of the miners satisfy their contract. -/
lemma Windowed.miners_valid (h : Windowed epochs) {m : MinerMean} (hm : m ∈ windowMiners (rowsOf epochs))
    (frauds : ℕ) : MinerAvailability.Valid { m with fraudulentAttestations := frauds } := by
  obtain ⟨row, hrow, helig, rfl⟩ := Scoring.mem_windowMiners.mp hm
  have hbounds : ∀ r ∈ Scoring.eligibleOf (rowsOf epochs) row.key, 0 ≤ r.ratio ∧ r.ratio ≤ 1 := by
    intro r hr
    obtain ⟨hmem, hr⟩ := List.mem_filter.mp (List.mem_of_mem_filter hr)
    exact h.ratio_bounds hmem hr
  have hcount : (Scoring.eligibleOf (rowsOf epochs) row.key).length ≤ maxEndpoints * maxEpochs := by
    refine le_trans ?_ h.length_endpoints
    refine le_trans (List.length_filter_le _ _) (le_trans (List.length_filter_le _ _) ?_)
    rw [rowsOf, List.length_map]
  obtain ⟨t, ht, rfl⟩ := List.mem_map.mp hrow
  obtain ⟨e, he, ht⟩ := List.mem_flatMap.mp ht
  have hvalid : t.Valid := (h.epochsValid e he).1.2.2.2.2.2.2.2.2.2.2.2.1 t ht
  refine ⟨hvalid.2.2.1, hvalid.2.2.2.1, ⟨Scoring.eligibleOf_pos hrow helig, hcount⟩, ?_, ?_⟩
  · exact Rat.den_pos _
  · exact Scoring.reduced_sealMean (Scoring.meanOf_bounds hbounds)

/-- **The window of the sorted epochs satisfies its contract** exactly when it fits. -/
lemma windowRecord_valid_iff (h : Windowed epochs)
    (hsorted : (epochs.map OrganicEpochScore.epochIndex).Pairwise (· < ·))
    (hpair : Dict.OneToOne (identitiesOf epochs)) {e : OrganicEpochScore} (he : e ∈ epochs) :
    (windowRecord e.validatorHotkey e.epochSeconds epochs (windowMiners (rowsOf epochs))).Valid ↔
      WindowFits epochs := by
  set s := windowRecord e.validatorHotkey e.epochSeconds epochs (windowMiners (rowsOf epochs)) with hs
  have hminers : s.miners.length = (windowMiners (rowsOf epochs)).length := List.length_map _
  have hevidence : s.fraudEvidence.length = (epochs.flatMap fun e => e.fraudEvidence).length :=
    Sorting.length_sortOn
  have hmeans : s.miners.map (fun m => m.toMinerMean) = windowMiners (rowsOf epochs) := by
    rw [hs, windowRecord, List.map_map]
    exact List.map_id _
  have hkeys : s.miners.map (fun m => m.toMinerMean.key) =
      (windowMiners (rowsOf epochs)).map MinerMean.key := by
    rw [← hmeans, List.map_map]
    rfl
  have hhotkeys : s.miners.map (fun m => m.minerHotkey) =
      (windowMiners (rowsOf epochs)).map MinerMean.minerHotkey := by
    rw [← hmeans, List.map_map]
    rfl
  constructor
  · intro hvalid
    exact ⟨hminers ▸ hvalid.1.2.2.2.2.2.2.2.2.1, hevidence ▸ hvalid.1.2.2.2.2.2.2.2.2.2.2.1⟩
  · rintro ⟨hfew, hrows⟩
    have hfirst := (h.epochsValid e he).1
    have hone : 1 ≤ epochs.length := List.length_pos_of_mem he
    have habstained : s.abstainedEpochs.Sublist s.epochIndexes := List.Sublist.map _ List.filter_sublist
    have hindexes : ∀ n ∈ s.epochIndexes, 0 ≤ n ∧ n ≤ 2 ^ 62 := by
      intro n hn
      obtain ⟨e', he', rfl⟩ := List.mem_map.mp hn
      exact (h.epochsValid e' he').1.2.2.1
    have hlength : s.epochIndexes.length = epochs.length := List.length_map _
    have hdigests : s.epochScoreDigests.length = epochs.length := List.length_map _
    refine ⟨⟨hfirst.1, hfirst.2.1, ?_, hindexes, ?_, ?_, ?_, ?_, hminers.trans_le hfew, ?_,
      hevidence.trans_le hrows, ?_, hex64_digest _⟩, ?_, ?_, habstained.subset, ?_, ?_, ?_, rfl⟩
    · rw [hlength]
      exact ⟨hone, h.few⟩
    · rw [hdigests]
      exact ⟨hone, h.few⟩
    · intro d hd
      obtain ⟨e', he', rfl⟩ := List.mem_map.mp hd
      exact (h.epochsValid e' he').1.2.2.2.2.2.2.2.2.2.2.2.2.2.2.2.2.2.2.2
    · exact le_trans habstained.length_le (hlength.trans_le h.few)
    · exact fun n hn => hindexes n (habstained.subset hn)
    · intro m hm
      obtain ⟨mean, hmean, rfl⟩ := List.mem_map.mp hm
      exact h.miners_valid hmean _
    · intro row hrow
      obtain ⟨e', he', hrow⟩ := List.mem_flatMap.mp (Sorting.mem_sortOn.mp hrow)
      exact (h.epochsValid e' he').1.2.2.2.2.2.2.2.2.2.2.2.2.2.1 row hrow
    · exact Sorting.eq_sortedSet_iff.mpr hsorted
    · rw [hlength, hdigests]
    · exact Sorting.eq_sortedSet_iff.mpr (hsorted.sublist habstained)
    · rw [hkeys, Scoring.keys_windowMiners, Sorting.sortedSet_idem]
    · rw [hhotkeys]
      apply Scoring.nodup_hotkeys_windowMiners
      rwa [map_miner_rowsOf]

lemma sortedEpochs_perm (epochs : List OrganicEpochScore) : (sortedEpochs epochs).Perm epochs :=
  Sorting.sortOn_perm _ _

/-- Distinct indexes ascend once they are sorted. -/
lemma Windowed.ascending (h : Windowed epochs) :
    ((sortedEpochs epochs).map OrganicEpochScore.epochIndex).Pairwise (· < ·) := by
  have hsorted : ((sortedEpochs epochs).map OrganicEpochScore.epochIndex).Pairwise (· ≤ ·) :=
    List.pairwise_map.mpr (Sorting.pairwise_sortOn _ _)
  have hnodup : ((sortedEpochs epochs).map OrganicEpochScore.epochIndex).Pairwise (· ≠ ·) :=
    ((sortedEpochs_perm epochs).map _).nodup_iff.mpr h.distinct
  exact hsorted.imp₂ (fun _ _ hle hne => lt_of_le_of_ne hle hne) hnodup

lemma identitiesOf_perm (hperm : epochs.Perm epochs') (h : Dict.OneToOne (identitiesOf epochs)) :
    Dict.OneToOne (identitiesOf epochs') :=
  h.mono fun _ hp => ((hperm.flatMap_right _).map _).mem_iff.mpr hp

/-- The checks of the sorted epochs against the first one. -/
lemma checks_iff {first : OrganicEpochScore} {rest : List OrganicEpochScore}
    (hvalid : ∀ e ∈ first :: rest, e.Valid) :
    Windowed (first :: rest) ↔ (first :: rest).length ≤ maxEpochs ∧
      ((first :: rest).map OrganicEpochScore.epochIndex).Nodup ∧
      (∀ item ∈ first :: rest, item.epochSeconds = first.epochSeconds) ∧
      ∀ item ∈ first :: rest, item.validatorHotkey = first.validatorHotkey := by
  have hmem : first ∈ first :: rest := List.mem_cons_self
  constructor
  · intro h
    exact ⟨h.few, h.distinct, fun item hitem => h.oneLength item hitem first hmem,
      fun item hitem => h.oneValidator item hitem first hmem⟩
  · rintro ⟨hfew, hdistinct, hseconds, hvalidator⟩
    exact ⟨hvalid, List.cons_ne_nil _ _, hfew, hdistinct,
      fun a ha b hb => (hseconds a ha).trans (hseconds b hb).symm,
      fun a ha b hb => (hvalidator a ha).trans (hvalidator b hb).symm⟩

/-- The window of the sorted epochs, once the checks have passed. -/
lemma aggregateSorted_of_windowed {first : OrganicEpochScore} {rest : List OrganicEpochScore}
    (h : Windowed (first :: rest)) :
    aggregateSorted (first :: rest) = (do
      let means ← (windowMeans (rowsOf (first :: rest))).mapError ofWindowRejection
      let record := windowRecord first.validatorHotkey first.epochSeconds (first :: rest) means
      revalidate OrganicAvailabilityScore.Valid record
      return record) := by
  obtain ⟨hfew, hdistinct, hseconds, hvalidator⟩ := (checks_iff h.epochsValid).mp h
  have hfew' : ¬ (first :: rest).length > maxEpochs := not_lt.mpr hfew
  have hepochs : ¬ (¬ ((first :: rest).map OrganicEpochScore.epochIndex).Nodup ∨
      ∃ item ∈ first :: rest, item.epochSeconds ≠ first.epochSeconds) := by
    rintro (hdup | ⟨item, hitem, hne⟩)
    · exact hdup hdistinct
    · exact hne (hseconds item hitem)
  have hvalidators : ¬ ∃ item ∈ first :: rest, item.validatorHotkey ≠ first.validatorHotkey := by
    rintro ⟨item, hitem, hne⟩
    exact hne (hvalidator item hitem)
  rw [aggregateSorted]
  simp only [reject, if_neg hfew', if_neg hepochs, if_neg hvalidators]
  rfl

/-- **The sorted epochs that are sealed into a window.** -/
lemma aggregateSorted_eq_ok {s : OrganicAvailabilityScore} (hvalid : ∀ e ∈ epochs, e.Valid)
    (hsorted : (epochs.map OrganicEpochScore.epochIndex).Pairwise (· ≤ ·)) :
    aggregateSorted epochs = .ok s ↔ Windowed epochs ∧ Dict.OneToOne (identitiesOf epochs) ∧
      WindowFits epochs ∧ ∃ e ∈ epochs,
        s = windowRecord e.validatorHotkey e.epochSeconds epochs (windowMiners (rowsOf epochs)) := by
  cases epochs with
  | nil =>
    constructor
    · intro h
      cases h
    · rintro ⟨h, -⟩
      exact absurd rfl h.nonempty
  | cons first rest =>
    have hmem : first ∈ first :: rest := List.mem_cons_self
    have hstrict (hw : Windowed (first :: rest)) :
        ((first :: rest).map OrganicEpochScore.epochIndex).Pairwise (· < ·) :=
      hsorted.imp₂ (fun _ _ hle hne => lt_of_le_of_ne hle hne) hw.distinct
    constructor
    · intro h
      have hw : Windowed (first :: rest) := by
        rw [checks_iff hvalid]
        rw [aggregateSorted] at h
        simp only [Except.bind_eq_ok, Except.reject_eq_ok, exists_const] at h
        obtain ⟨hfew, hepochs, hvalidators, -⟩ := h
        push Not at hfew hepochs hvalidators
        exact ⟨hfew, hepochs.1, hepochs.2, hvalidators⟩
      rw [aggregateSorted_of_windowed hw] at h
      simp only [Except.bind_eq_ok, Except.mapError_eq_ok, Scoring.windowMeans_eq_ok, revalidate_eq_ok, exists_const] at h
      obtain ⟨means, ⟨hconsistent, rfl⟩, hrecord, hs⟩ := h
      have hpair : Dict.OneToOne (identitiesOf (first :: rest)) := map_miner_rowsOf _ ▸ hconsistent.1
      exact ⟨hw, hpair, (windowRecord_valid_iff hw (hstrict hw) hpair hmem).mp hrecord, first, hmem,
        (Except.ok.inj hs).symm⟩
    · rintro ⟨hw, hpair, hfits, e, he, rfl⟩
      rw [aggregateSorted_of_windowed hw]
      simp only [Except.bind_eq_ok, Except.mapError_eq_ok, Scoring.windowMeans_eq_ok, revalidate_eq_ok, exists_const]
      refine ⟨_, ⟨⟨map_miner_rowsOf _ ▸ hpair, hw.measured⟩, rfl⟩,
        (windowRecord_valid_iff hw (hstrict hw) hpair hmem).mpr hfits, ?_⟩
      rw [hw.oneValidator e he first hmem, hw.oneLength e he first hmem]
      rfl

/-- **The windows that are sealed, and what is sealed.** -/
theorem aggregateOrganicWindow_eq_ok {s : OrganicAvailabilityScore} :
    aggregateOrganicWindow epochs = .ok s ↔ Windowed epochs ∧ Dict.OneToOne (identitiesOf epochs) ∧
      WindowFits epochs ∧ ∃ e ∈ epochs, s = windowOf e.validatorHotkey e.epochSeconds epochs := by
  have hperm := sortedEpochs_perm epochs
  have hsorted : ((sortedEpochs epochs).map OrganicEpochScore.epochIndex).Pairwise (· ≤ ·) :=
    List.pairwise_map.mpr (Sorting.pairwise_sortOn _ _)
  have hrevalidated : epochs.forM (revalidate OrganicEpochScore.Valid) = .ok () ↔ ∀ e ∈ epochs, e.Valid := by
    simp only [Except.forM_eq_ok, revalidate_eq_ok]
  rw [aggregateOrganicWindow, Except.bind_eq_ok]
  simp only [hrevalidated, exists_const]
  constructor
  · rintro ⟨hvalid, h⟩
    obtain ⟨hw, hpair, hfits, e, he, hs⟩ :=
      (aggregateSorted_eq_ok (fun e he => hvalid e (hperm.mem_iff.mp he)) hsorted).mp h
    exact ⟨hw.perm hperm, identitiesOf_perm hperm hpair, windowFits_perm hperm hfits, e, hperm.mem_iff.mp he, hs⟩
  · rintro ⟨hw, hpair, hfits, e, he, hs⟩
    refine ⟨hw.epochsValid, ?_⟩
    rw [← sortedEpochs, aggregateSorted_eq_ok (hw.perm hperm.symm).epochsValid hsorted]
    exact ⟨hw.perm hperm.symm, identitiesOf_perm hperm.symm hpair, windowFits_perm hperm.symm hfits, e,
      hperm.mem_iff.mpr he, hs⟩

/-- **A window is refused for an identity conflict exactly when UIDs and hotkeys are not paired one to
one** over all endpoints of all epochs. -/
theorem aggregateOrganicWindow_conflict (h : Windowed epochs) :
    aggregateOrganicWindow epochs = .error (.scoring .identityConflict) ↔
      ¬ Dict.OneToOne (identitiesOf epochs) := by
  have hperm := sortedEpochs_perm epochs
  have hw := h.perm hperm.symm
  have hrevalidated : epochs.forM (revalidate OrganicEpochScore.Valid) = .ok () := by
    simp only [Except.forM_eq_ok, revalidate_eq_ok]
    exact h.epochsValid
  have hone : Dict.OneToOne (identitiesOf (sortedEpochs epochs)) ↔ Dict.OneToOne (identitiesOf epochs) :=
    ⟨identitiesOf_perm hperm, identitiesOf_perm hperm.symm⟩
  have hrun : aggregateOrganicWindow epochs = aggregateSorted (sortedEpochs epochs) := by
    rw [aggregateOrganicWindow, hrevalidated]
    rfl
  rw [hrun, ← hone]
  cases hvalues : sortedEpochs epochs with
  | nil => exact absurd hvalues hw.nonempty
  | cons first rest =>
    rw [hvalues] at hw
    rw [aggregateSorted_of_windowed hw]
    cases hmeans : windowMeans (rowsOf (first :: rest)) with
    | ok means =>
      have hpair := (Scoring.windowMeans_eq_ok.mp hmeans).1.1
      rw [map_miner_rowsOf] at hpair
      constructor
      · intro hfail
        simp only [Except.mapError, revalidate, reject, bind, Except.bind] at hfail
        split at hfail
        · rename_i hinvalid
          split at hinvalid <;> cases hinvalid
          cases hfail
        · cases hfail
      · intro hneg
        exact absurd hpair hneg
    | error e =>
      obtain ⟨rfl, hpair⟩ := (Scoring.windowMeans_eq_error hw.measured).mp hmeans
      rw [map_miner_rowsOf] at hpair
      exact ⟨fun _ => hpair, fun _ => rfl⟩

end Window

end Organic

end Misscomputer
