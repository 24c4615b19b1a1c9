import Mathlib.Data.Rat.Lemmas
import Misscomputer.Organic.Tallies

set_option relaxedAutoImplicit false
set_option autoImplicit false

/-!
# What an organic epoch accepts

The inputs on which `score_organic_epoch` returns, and what it returns on them. The corroborating windows
meet two bounds of the sealed record, and nothing else of what the score is derived from.

## Main definitions

* `Organic.Scorable` — what manifests, observations and policy have to satisfy.
* `Organic.Fits` — what the corroborating windows have to satisfy.
* `Organic.scoredEpoch` — the record.

## Main results

* `Organic.scoreOrganicEpoch_eq_ok` — the epoch is scored exactly on such inputs, with this record.
-/

namespace Misscomputer

namespace Organic

open Contract

/-! ## The rows of the endpoints -/

section Rows

variable {observations : List OrganicProbeObservation}

lemma nodup_keys_tallies (observations : List OrganicProbeObservation) :
    (ledger observations).tallies.keys.Nodup :=
  Dict.nodup_keys_collect observations

/-- The endpoints with a tally are those of the observations. -/
lemma mem_keys_tallies {endpoint : String} : endpoint ∈ (ledger observations).tallies.keys ↔
    ∃ o ∈ observations, o.endpointID = endpoint :=
  Dict.mem_keys_collect

/-- **The entries of the tallies.** -/
lemma mem_tallies {endpoint : String} {tally : Tally} :
    (endpoint, tally) ∈ (ledger observations).tallies ↔
      ∃ first, (observations.find? fun o => o.endpointID = endpoint) = some first ∧
        tally = Tally.of first (ofEndpoint observations endpoint) := by
  rw [Dict.mem_iff_get (nodup_keys_tallies observations), get_tallies, Option.map_eq_some_iff]
  constructor
  · rintro ⟨first, hfirst, rfl⟩
    exact ⟨first, hfirst, rfl⟩
  · rintro ⟨first, hfirst, rfl⟩
    exact ⟨first, hfirst, rfl⟩

/-- The observation that opened a tally is one of the endpoint's. -/
lemma exists_first {endpoint : String} {tally : Tally}
    (h : (endpoint, tally) ∈ (ledger observations).tallies) :
    ∃ first ∈ observations, first.endpointID = endpoint ∧
      tally = Tally.of first (ofEndpoint observations endpoint) ∧
      0 < (ofEndpoint observations endpoint).length := by
  obtain ⟨first, hfind, rfl⟩ := mem_tallies.mp h
  have hmem := List.mem_of_find?_eq_some hfind
  have hend : first.endpointID = endpoint := by simpa using List.find?_some hfind
  refine ⟨first, hmem, hend, rfl, List.length_pos_of_mem (a := first) ?_⟩
  rw [ofEndpoint, List.mem_filter]
  exact ⟨hmem, decide_eq_true hend⟩

/-- The sampled endpoints are counted once each. -/
lemma length_tallies (observations : List OrganicProbeObservation) :
    (ledger observations).tallies.length =
      (Sorting.sortedSet (observations.map OrganicProbeObservation.endpointID)).length := by
  have hperm : (ledger observations).tallies.keys.Perm
      (Sorting.sortedSet (observations.map OrganicProbeObservation.endpointID)) := by
    rw [List.perm_ext_iff_of_nodup (nodup_keys_tallies observations) (Sorting.nodup_sortedSet _)]
    intro endpoint
    rw [mem_keys_tallies, Sorting.mem_sortedSet, List.mem_map]
  rw [← hperm.length_eq, Dict.keys, List.length_map]

/-- A reduced fraction is no larger than the fraction it was written as. -/
lemma mkRat_le {a b : ℕ} (hb : 0 < b) : (mkRat a b).num.toNat ≤ a ∧ (mkRat a b).den ≤ b := by
  have hne : b ≠ 0 := hb.ne'
  rw [← Rat.normalize_eq_mkRat hne, Rat.normalize_eq]
  constructor
  · dsimp only
    rw [Int.natAbs_natCast, ← Int.natCast_ediv, Int.toNat_natCast]
    exact Nat.div_le_self _ _
  · exact Nat.div_le_self _ _

/-- The windows of a record that are summarized for an endpoint of the epoch. -/
def servingWindows (epochSeconds epochIndex : ℤ) (windows : List ServingCorroboration) (endpoint : String) :
    List ServingCorroboration :=
  endpointWindows (windows.filter fun w => !w.origin && decide (w.endpointID = endpoint) &&
    decide (epochIndex * epochSeconds ≤ w.windowStartEpoch ∧
      w.windowStartEpoch < epochIndex * epochSeconds + epochSeconds))

lemma get_epochWindows {epochSeconds epochIndex : ℤ} {tallies : Dict String Tally}
    {windows : List ServingCorroboration} {endpoint : String} (h : endpoint ∈ tallies.keys) :
    endpointWindows (((epochWindows epochSeconds epochIndex tallies windows).get endpoint).getD []) =
      servingWindows epochSeconds epochIndex windows endpoint := by
  rw [epochWindows, Dict.getD_collect_append, List.filter_filter, servingWindows]
  congr 1
  apply List.filter_congr
  intro w _
  by_cases hend : w.endpointID = endpoint
  · simp [hend, h]
  · simp [hend]

lemma mem_of_mem_servingWindows {epochSeconds epochIndex : ℤ} {windows : List ServingCorroboration}
    {endpoint : String} {w : ServingCorroboration}
    (h : w ∈ servingWindows epochSeconds epochIndex windows endpoint) : w ∈ windows := by
  have hsort := List.mem_of_mem_take h
  rw [Sorting.mem_sortOn] at hsort
  exact (List.mem_filter.mp (Dict.mem_of_mem_lastsOn hsort)).1

/-- **The row of an endpoint is a value of its contract** unless the windows count too many requests. -/
lemma endpointRow_valid_iff {epochSeconds epochIndex minAttempts : ℤ} {windows : List ServingCorroboration}
    (hvalid : ∀ o ∈ observations, o.Valid) (htallied : Tallied epochSeconds epochIndex observations)
    (hwindows : ∀ w ∈ windows, w.Valid) {entry : String × Tally}
    (h : entry ∈ (ledger observations).tallies) :
    (endpointRow minAttempts (ledger observations).tallies
        (epochWindows epochSeconds epochIndex (ledger observations).tallies windows) entry).Valid ↔
      ((servingWindows epochSeconds epochIndex windows entry.1).map ServingCorroboration.requests).sum ≤
        maxInt := by
  obtain ⟨endpoint, tally⟩ := entry
  obtain ⟨first, hmem, hend, rfl, hpos⟩ := exists_first h
  obtain ⟨hfields, -⟩ := hvalid first hmem
  have hkey : endpoint ∈ (ledger observations).tallies.keys := List.mem_map_of_mem h
  have hattempts := htallied.attempts endpoint
  have hcount : ∀ p : OrganicProbeObservation → Bool,
      (ofEndpoint observations endpoint).countP p ≤ maxObservations := by
    intro p
    have hle : (ofEndpoint observations endpoint).countP p ≤ _ := List.countP_le_length
    have hmax : maxAttemptsPerEndpoint ≤ maxObservations := by decide
    omega
  have hlength : (ofEndpoint observations endpoint).length ≤ maxObservations :=
    hattempts.trans (by decide)
  have hratio := mkRat_le (a := (ofEndpoint observations endpoint).countP fun o => o.attribution = .none) hpos
  have hsum : 0 ≤ ((servingWindows epochSeconds epochIndex windows endpoint).map
      ServingCorroboration.requests).sum := by
    apply List.sum_nonneg
    intro n hn
    obtain ⟨w, hw, rfl⟩ := List.mem_map.mp hn
    have hcount := (hwindows w (mem_of_mem_servingWindows hw)).2.2.2
    rw [count, Bool.and_eq_true] at hcount
    exact of_decide_eq_true hcount.1
  have hshort : (servingWindows epochSeconds epochIndex windows endpoint).length ≤ maxCorroborationWindows := by
    rw [servingWindows, endpointWindows, List.length_take]
    exact min_le_left _ _
  have hroute : dnsLabel first.deploymentID = true := by
    have := hfields.2.2.2.1
    rw [routeLabel, Bool.and_eq_true] at this
    exact this.1
  rw [EndpointEpochTally.Valid, endpointRow]
  dsimp only [Tally.of]
  rw [get_epochWindows hkey]
  constructor
  · intro hrow
    have hrequests := hrow.2.2.2.2.2.2.2.2
    rw [count, Bool.and_eq_true] at hrequests
    exact of_decide_eq_true hrequests.2
  · intro hbound
    refine ⟨hroute, hend ▸ hfields.2.2.2.2.2.1, hfields.2.2.2.2.2.2.2.1, hfields.2.2.2.2.2.2.2.2.1, ?_, ?_, ?_,
      hshort, ?_⟩
    · simp only [List.forall_mem_cons, List.not_mem_nil, false_implies, implies_true, and_true]
      exact ⟨hlength, hcount _, hcount _, hcount _, hcount _, hcount _⟩
    · intro n hn
      obtain ⟨-, hn⟩ := Option.mem_ite_none_right.mp hn
      rw [← Option.some.inj hn]
      exact hratio.1.trans (hcount _)
    · intro n hn
      obtain ⟨-, hn⟩ := Option.mem_ite_none_right.mp hn
      rw [← Option.some.inj hn]
      exact hratio.2.trans hlength
    · rw [count, decide_eq_true hsum, decide_eq_true hbound]
      rfl

/-- An inconclusive deployment is one of a tally. -/
lemma exists_of_mem_inconclusive {tallies : Dict String Tally} {deployment : String}
    (h : deployment ∈ inconclusive tallies) : ∃ entry ∈ tallies, entry.2.deploymentID = deployment := by
  rw [inconclusive, Sorting.mem_sortOn] at h
  obtain ⟨⟨key, n⟩, hmem, rfl⟩ := List.mem_map.mp h
  have hkey : key ∈ Dict.keys _ := List.mem_map_of_mem (List.mem_filter.mp hmem).1
  obtain ⟨entry, hentry, hkey⟩ := Dict.mem_keys_collect.mp hkey
  exact ⟨entry, (List.mem_filter.mp hentry).1, hkey⟩

end Rows

/-! ## The observations of an epoch -/

/-- The observations the judging loop accepts. -/
structure Judged (ed25519 : String → String → List UInt8 → Bool)
    (index : Dict String ActiveAssignmentManifestV2) (validatorHotkey : String)
    (epochSeconds epochIndex : ℤ) (observations : List OrganicProbeObservation) : Prop where
  /-- All name the validator. -/
  validator : ∀ o ∈ observations, o.validatorHotkey = validatorHotkey
  /-- No digest is repeated. -/
  digests : (observations.map OrganicProbeObservation.observationDigestSha256).Nodup
  /-- No nonce is repeated. -/
  nonces : (observations.map OrganicProbeObservation.probeNonce).Nodup
  /-- All lie in the epoch. -/
  epoch : ∀ o ∈ observations, InEpoch epochSeconds epochIndex o.issuedAt
  /-- All are bound to the manifest they name. -/
  bound : ∀ o ∈ observations, verifyAgainstManifest ed25519 o (index.get o.manifestDigestSha256) = .ok ()

section Judge

variable {ed25519 : String → String → List UInt8 → Bool} {index : Dict String ActiveAssignmentManifestV2}
  {validatorHotkey : String} {epochSeconds epochIndex : ℤ} {observations : List OrganicProbeObservation}

lemma judged_nil : Judged ed25519 index validatorHotkey epochSeconds epochIndex [] := by
  constructor <;> simp

lemma nodup_concat {α : Type} {l : List α} {a : α} : (l ++ [a]).Nodup ↔ l.Nodup ∧ a ∉ l := by
  rw [List.nodup_append]
  constructor
  · rintro ⟨hl, -, hne⟩
    exact ⟨hl, fun ha => hne a ha a (List.mem_singleton_self a) rfl⟩
  · rintro ⟨hl, ha⟩
    refine ⟨hl, List.nodup_singleton a, ?_⟩
    rintro b hb c hc rfl
    exact ha (List.mem_singleton.mp hc ▸ hb)

/-- What one more observation has to satisfy. -/
lemma judged_concat {o : OrganicProbeObservation} :
    Judged ed25519 index validatorHotkey epochSeconds epochIndex (observations ++ [o]) ↔
      Judged ed25519 index validatorHotkey epochSeconds epochIndex observations ∧
        o.validatorHotkey = validatorHotkey ∧
        (o.observationDigestSha256 ∉ observations.map OrganicProbeObservation.observationDigestSha256 ∧
          o.probeNonce ∉ observations.map OrganicProbeObservation.probeNonce) ∧
        InEpoch epochSeconds epochIndex o.issuedAt ∧
        verifyAgainstManifest ed25519 o (index.get o.manifestDigestSha256) = .ok () := by
  constructor
  · intro h
    have hsub : ∀ p ∈ observations, p ∈ observations ++ [o] := fun p hp => List.mem_append_left _ hp
    have hlast : o ∈ observations ++ [o] := by simp
    obtain ⟨hvalidator, hdigests, hnonces, hepoch, hbound⟩ := h
    rw [List.map_append, List.map_singleton, nodup_concat] at hdigests hnonces
    exact ⟨⟨fun p hp => hvalidator p (hsub p hp), hdigests.1, hnonces.1, fun p hp => hepoch p (hsub p hp),
      fun p hp => hbound p (hsub p hp)⟩, hvalidator o hlast, ⟨hdigests.2, hnonces.2⟩, hepoch o hlast,
      hbound o hlast⟩
  · rintro ⟨⟨hvalidator, hdigests, hnonces, hepoch, hbound⟩, hvalidator', hnew, hepoch', hbound'⟩
    constructor
    · rw [List.forall_mem_append, List.forall_mem_singleton]
      exact ⟨hvalidator, hvalidator'⟩
    · rw [List.map_append, List.map_singleton, nodup_concat]
      exact ⟨hdigests, hnew.1⟩
    · rw [List.map_append, List.map_singleton, nodup_concat]
      exact ⟨hnonces, hnew.2⟩
    · rw [List.forall_mem_append, List.forall_mem_singleton]
      exact ⟨hepoch, hepoch'⟩
    · rw [List.forall_mem_append, List.forall_mem_singleton]
      exact ⟨hbound, hbound'⟩

/-- What the judging loop has seen. -/
def seenOf (observations : List OrganicProbeObservation) : Seen where
  digests := observations.map OrganicProbeObservation.observationDigestSha256
  nonces := observations.map OrganicProbeObservation.probeNonce

/-- **What the judging loop accepts.** -/
theorem foldlM_judge {seen : Seen} :
    observations.foldlM (judge ed25519 index validatorHotkey epochSeconds epochIndex) ⟨[], []⟩ = .ok seen ↔
      Judged ed25519 index validatorHotkey epochSeconds epochIndex observations ∧
        seen = seenOf observations := by
  have hstart : seenOf [] = ⟨[], []⟩ := rfl
  rw [← hstart]
  apply Except.foldlM_eq_ok judged_nil
  · intro l o h
    exact (judged_concat.mp h).1
  · intro l o s h
    rw [judged_concat, judge]
    simp only [Except.bind_eq_ok, Except.reject_eq_ok, checkEpoch_eq_ok, exists_const]
    simp only [h, true_and, seenOf, List.map_append, List.map_singleton, not_or, not_not, ne_eq]
    constructor
    · rintro ⟨hvalidator, hnew, hepoch, ⟨⟩, hbound, hs⟩
      exact ⟨⟨hvalidator, hnew, hepoch, hbound⟩, (Except.ok.inj hs).symm⟩
    · rintro ⟨⟨hvalidator, hnew, hepoch, hbound⟩, rfl⟩
      exact ⟨hvalidator, hnew, hepoch, (), hbound, rfl⟩

end Judge

/-! ## The record -/

/-- The windows of a record are canonical. -/
lemma keptWindows_canonical (corroboration : List ServingCorroboration) :
    (keptWindows corroboration).map windowKey =
      Sorting.sortedSet ((keptWindows corroboration).map windowKey) := by
  rw [Sorting.eq_sortedSet_iff]
  have hle : ((keptWindows corroboration).map windowKey).Pairwise (· ≤ ·) :=
    List.pairwise_map.mpr (Sorting.pairwise_sortOn windowKey _)
  have hnodup : ((keptWindows corroboration).map windowKey).Nodup :=
    ((Sorting.sortOn_perm windowKey _).map windowKey).nodup_iff.mpr (Dict.nodup_map_lastsOn corroboration)
  exact (hle.and hnodup).imp fun h => lt_of_le_of_ne h.1 h.2

lemma mem_of_mem_keptWindows {corroboration : List ServingCorroboration} {w : ServingCorroboration}
    (h : w ∈ keptWindows corroboration) : w ∈ corroboration :=
  Dict.mem_of_mem_lastsOn (Sorting.mem_sortOn.mp h)

/-- What manifests, observations and policy have to satisfy for the epoch to be scored. -/
structure Scorable (ed25519 : String → String → List UInt8 → Bool)
    (manifests : List ActiveAssignmentManifestV2) (observations : List OrganicProbeObservation)
    (policy : EpochPolicy) : Prop where
  epochSeconds : 60 ≤ policy.epochSeconds ∧ policy.epochSeconds ≤ 3600
  minAttempts : 1 ≤ policy.minAttempts ∧ policy.minAttempts ≤ 16
  validatorHotkey : hotkey policy.validatorHotkey = true
  epochIndex : 0 ≤ policy.epochIndex ∧ policy.epochIndex ≤ 2 ^ 62
  manifestsValid : ∀ m ∈ manifests, m.Valid
  observationsValid : ∀ o ∈ observations, o.Valid
  /-- The observations are bound to the manifests, the validator and the epoch, and none is repeated. -/
  judged : Judged ed25519 (manifestIndex manifests) policy.validatorHotkey policy.epochSeconds
    policy.epochIndex observations
  /-- Miners and endpoints have one identity, and no endpoint has more than sixteen attempts. -/
  tallied : Tallied policy.epochSeconds policy.epochIndex observations
  count : observations.length ≤ maxObservations
  manifestCount :
    (Sorting.sortedSet (observations.map OrganicProbeObservation.manifestDigestSha256)).length ≤ 1024
  deploymentCount :
    (inconclusive (ledger (Sorting.sortOn observationOrder observations)).tallies).length ≤ 4096
  endpointCount :
    (Sorting.sortedSet (observations.map OrganicProbeObservation.endpointID)).length ≤ maxEndpoints

/-- What the corroborating windows have to satisfy: the record holds at most `MAX_ENDPOINTS` of them, and
the requests summarized for an endpoint are a 63-bit number. -/
def Fits (policy : EpochPolicy) (observations : List OrganicProbeObservation)
    (corroboration : List ServingCorroboration) : Prop :=
  (keptWindows corroboration).length ≤ maxEndpoints ∧
    ∀ o ∈ observations, ((servingWindows policy.epochSeconds policy.epochIndex (keptWindows corroboration)
      o.endpointID).map ServingCorroboration.requests).sum ≤ maxInt

/-- The record of a scored epoch. -/
def scoredEpoch (policy : EpochPolicy) (observations : List OrganicProbeObservation)
    (corroboration : List ServingCorroboration) : OrganicEpochScore :=
  epochRecord policy (Sorting.sortOn observationOrder observations) (keptWindows corroboration)
    (summarize policy.epochSeconds policy.epochIndex policy.minAttempts
      (ledger (Sorting.sortOn observationOrder observations)) (keptWindows corroboration))

/-- The loop does not depend on the order of the observations. -/
lemma Tallied.perm {epochSeconds epochIndex : ℤ} {observations observations' : List OrganicProbeObservation}
    (h : Tallied epochSeconds epochIndex observations) (hperm : observations.Perm observations') :
    Tallied epochSeconds epochIndex observations' where
  epoch o ho := h.epoch o (hperm.mem_iff.mpr ho)
  miners := h.miners.mono fun _ hp => (hperm.map _).mem_iff.mpr hp
  identities o ho p hp := h.identities o (hperm.mem_iff.mpr ho) p (hperm.mem_iff.mpr hp)
  attempts endpoint := by
    have hfilter : (ofEndpoint observations' endpoint).length = (ofEndpoint observations endpoint).length :=
      (hperm.filter _).length_eq.symm
    rw [hfilter]
    exact h.attempts endpoint

section Record

variable {policy : EpochPolicy} {values : List OrganicProbeObservation} {windows : List ServingCorroboration}

/-- The bounds of a record that its observations have to keep. -/
def Bounded (policy : EpochPolicy) (values : List OrganicProbeObservation) : Prop :=
  hotkey policy.validatorHotkey = true ∧ (0 ≤ policy.epochIndex ∧ policy.epochIndex ≤ 2 ^ 62) ∧
    (Sorting.sortedSet (values.map OrganicProbeObservation.manifestDigestSha256)).length ≤ 1024 ∧
    (inconclusive (ledger values).tallies).length ≤ 4096 ∧ (ledger values).tallies.length ≤ maxEndpoints

/-- The fields of a record that are derived from the observations are values of their contracts. -/
lemma fields_valid (hvalid : ∀ o ∈ values, o.Valid) (hcount : values.length ≤ maxObservations) :
    (∀ s ∈ Sorting.sortedSet (values.map OrganicProbeObservation.manifestDigestSha256), hex64 s = true) ∧
      (∀ s ∈ inconclusive (ledger values).tallies, dnsLabel s = true) ∧
      (ledger values).tallies.length ≤ maxObservations ∧ (ledger values).fraud.length ≤ maxObservations ∧
      ∀ row ∈ (ledger values).fraud, row.Valid := by
  refine ⟨?_, ?_, ?_, ?_, ?_⟩
  · intro s hs
    obtain ⟨o, ho, rfl⟩ := List.mem_map.mp (Sorting.mem_sortedSet.mp hs)
    exact (hvalid o ho).1.2.1
  · intro s hs
    obtain ⟨⟨endpoint, tally⟩, hentry, rfl⟩ := exists_of_mem_inconclusive hs
    obtain ⟨first, hmem, -, rfl, -⟩ := exists_first hentry
    have hroute := (hvalid first hmem).1.2.2.2.1
    rw [routeLabel, Bool.and_eq_true] at hroute
    exact hroute.1
  · rw [length_tallies]
    refine Sorting.length_sortedSet_le.trans ?_
    rwa [List.length_map]
  · rw [ledger, List.length_map]
    exact (List.length_filter_le _ _).trans hcount
  · intro row hrow
    obtain ⟨o, ho, rfl⟩ := List.mem_map.mp hrow
    have hfields := (hvalid o (List.mem_filter.mp ho).1).1
    exact ⟨hfields.2.2.2.2.2.2.2.1, hfields.2.2.2.2.2.2.2.2.1, hfields.2.2.2.2.2.1,
      hfields.2.2.2.2.2.2.2.2.2.2.2.2.2.2.2.2.2.2⟩

/-- **When the record of an epoch is a value of its contract.** -/
lemma epochRecord_valid_iff (hseconds : 60 ≤ policy.epochSeconds ∧ policy.epochSeconds ≤ 3600)
    (hattempts : 1 ≤ policy.minAttempts ∧ policy.minAttempts ≤ 16) (hvalid : ∀ o ∈ values, o.Valid)
    (hcount : values.length ≤ maxObservations) (hsorted : values = Sorting.sortOn observationOrder values)
    (hnonces : (values.map OrganicProbeObservation.probeNonce).Nodup)
    (hvalidator : ∀ o ∈ values, o.validatorHotkey = policy.validatorHotkey)
    (htallied : Tallied policy.epochSeconds policy.epochIndex values) (hwindows : ∀ w ∈ windows, w.Valid)
    (hcanonical : windows.map windowKey = Sorting.sortedSet (windows.map windowKey)) :
    (epochRecord policy values windows (summarize policy.epochSeconds policy.epochIndex policy.minAttempts
      (ledger values) windows)).Valid ↔
      Bounded policy values ∧ windows.length ≤ maxEndpoints ∧ ∀ o ∈ values,
        ((servingWindows policy.epochSeconds policy.epochIndex windows o.endpointID).map
          ServingCorroboration.requests).sum ≤ maxInt := by
  obtain ⟨hdigests, hlabels, htallies, hfrauds, hrows⟩ := fields_valid hvalid hcount
  constructor
  · rintro ⟨hfields, -⟩
    obtain ⟨hhotkey, -, hindex, -, hmanifests, -, -, -, hdeployments, -, hendpoints, hendpoints', -, -,
      hwindowCount, -⟩ := hfields
    refine ⟨⟨hhotkey, hindex, hmanifests, hdeployments, ?_⟩, hwindowCount, ?_⟩
    · change ((Sorting.sortOn Prod.fst (ledger values).tallies).map _).length ≤ maxEndpoints at hendpoints
      rwa [List.length_map, Sorting.length_sortOn] at hendpoints
    · intro o ho
      have hkey : o.endpointID ∈ (ledger values).tallies.keys := mem_keys_tallies.mpr ⟨o, ho, rfl⟩
      obtain ⟨entry, hentry, hend⟩ := List.mem_map.mp hkey
      rw [← hend, ← endpointRow_valid_iff hvalid htallied hwindows hentry]
      exact hendpoints' _ (List.mem_map_of_mem (Sorting.mem_sortOn.mpr hentry))
  · rintro ⟨⟨hhotkey, hindex, hmanifests, hdeployments, hendpoints⟩, hwindowCount, hsum⟩
    refine ⟨⟨hhotkey, hseconds, hindex, hattempts, hmanifests, hdigests, htallies, ?_, hdeployments, hlabels,
      ?_, ?_, ?_, ?_, hwindowCount, hwindows, hcount, hvalid, hex64_digest _, hex64_digest _⟩, ?_⟩
    · exact List.countP_le_length.trans htallies
    · change ((Sorting.sortOn Prod.fst (ledger values).tallies).map _).length ≤ maxEndpoints
      rwa [List.length_map, Sorting.length_sortOn]
    · intro row hrow
      obtain ⟨entry, hentry, rfl⟩ := List.mem_map.mp hrow
      have hentry := Sorting.mem_sortOn.mp hentry
      obtain ⟨first, hfirst, hend, -, -⟩ := exists_first hentry
      rw [endpointRow_valid_iff hvalid htallied hwindows hentry, ← hend]
      exact hsum first hfirst
    · change (Sorting.sortOn _ (ledger values).fraud).length ≤ maxObservations
      rwa [Sorting.length_sortOn]
    · intro row hrow
      exact hrows row (Sorting.mem_sortOn.mp hrow)
    · refine ⟨(Sorting.sortedSet_idem).symm, ?_, hsorted, hnonces, hvalidator, hcanonical, ?_, rfl, rfl⟩
      · intro o ho
        exact Sorting.mem_sortedSet.mpr (List.mem_map_of_mem ho)
      · exact deriveEpoch_eq_ok.mpr ⟨htallied, rfl⟩

end Record

lemma revalidate_eq_ok {α : Type} {valid : α → Prop} [DecidablePred valid] {a : α} {u : Unit} :
    revalidate valid a = .ok u ↔ valid a := by
  rw [revalidate, Except.reject_eq_ok, not_not]

/-- **The epoch is scored exactly on scorable inputs whose windows fit, with this record.** -/
theorem scoreOrganicEpoch_eq_ok {ed25519 : String → String → List UInt8 → Bool}
    {manifests : List ActiveAssignmentManifestV2} {observations : List OrganicProbeObservation}
    {policy : EpochPolicy} {corroboration : List ServingCorroboration} {record : OrganicEpochScore} :
    scoreOrganicEpoch ed25519 manifests observations policy corroboration = .ok record ↔
      Scorable ed25519 manifests observations policy ∧ (∀ w ∈ corroboration, w.Valid) ∧
        Fits policy observations corroboration ∧ record = scoredEpoch policy observations corroboration := by
  have hperm := Sorting.sortOn_perm observationOrder observations
  have hwindows : (∀ w ∈ corroboration, w.Valid) → ∀ w ∈ keptWindows corroboration, w.Valid :=
    fun h w hw => h w (mem_of_mem_keptWindows hw)
  have hbounded : Bounded policy (Sorting.sortOn observationOrder observations) ↔
      hotkey policy.validatorHotkey = true ∧ (0 ≤ policy.epochIndex ∧ policy.epochIndex ≤ 2 ^ 62) ∧
        (Sorting.sortedSet (observations.map OrganicProbeObservation.manifestDigestSha256)).length ≤ 1024 ∧
        (inconclusive (ledger (Sorting.sortOn observationOrder observations)).tallies).length ≤ 4096 ∧
        (Sorting.sortedSet (observations.map OrganicProbeObservation.endpointID)).length ≤ maxEndpoints := by
    have hset : ∀ f : OrganicProbeObservation → String,
        Sorting.sortedSet ((Sorting.sortOn observationOrder observations).map f) =
          Sorting.sortedSet (observations.map f) :=
      fun f => Sorting.sortedSet_congr fun x => (hperm.map f).mem_iff
    rw [Bounded, length_tallies, hset, hset]
  simp only [scoreOrganicEpoch, Except.bind_eq_ok, Except.reject_eq_ok, Except.forM_eq_ok, revalidate_eq_ok,
    foldlM_judge, deriveEpoch_eq_ok, exists_const]
  constructor
  · rintro ⟨hpolicy, hmanifests, hobservations, hcount, _, ⟨hjudged, -⟩, hcorroboration, _, ⟨htallied, rfl⟩,
      hrecord, hok⟩
    rw [not_or, not_not, not_not] at hpolicy
    rw [not_lt] at hcount
    have hvalid := (epochRecord_valid_iff hpolicy.1 hpolicy.2 (fun o ho => hobservations o (hperm.mem_iff.mp ho))
      (hperm.length_eq.trans_le hcount) Sorting.sortOn_sortOn.symm
      ((hperm.map _).nodup_iff.mpr hjudged.nonces) (fun o ho => hjudged.validator o (hperm.mem_iff.mp ho))
      htallied (hwindows hcorroboration) (keptWindows_canonical corroboration)).mp hrecord
    obtain ⟨hhotkey, hindex, hmanifestCount, hdeployments, hendpoints⟩ := hbounded.mp hvalid.1
    refine ⟨⟨hpolicy.1, hpolicy.2, hhotkey, hindex, hmanifests, hobservations, hjudged, htallied.perm hperm,
      hcount, hmanifestCount, hdeployments, hendpoints⟩, hcorroboration, ⟨hvalid.2.1, fun o ho => ?_⟩,
      (Except.ok.inj hok).symm⟩
    exact hvalid.2.2 o (hperm.mem_iff.mpr ho)
  · rintro ⟨h, hcorroboration, ⟨hcount, hsum⟩, rfl⟩
    have htallied := h.tallied.perm hperm.symm
    refine ⟨?_, h.manifestsValid, h.observationsValid, not_lt.mpr h.count, _, ⟨h.judged, rfl⟩, hcorroboration,
      _, ⟨htallied, rfl⟩, ?_, rfl⟩
    · rw [not_or, not_not, not_not]
      exact ⟨h.epochSeconds, h.minAttempts⟩
    · refine (epochRecord_valid_iff h.epochSeconds h.minAttempts
        (fun o ho => h.observationsValid o (hperm.mem_iff.mp ho)) (hperm.length_eq.trans_le h.count)
        Sorting.sortOn_sortOn.symm ((hperm.map _).nodup_iff.mpr h.judged.nonces)
        (fun o ho => h.judged.validator o (hperm.mem_iff.mp ho)) htallied (hwindows hcorroboration)
        (keptWindows_canonical corroboration)).mpr ⟨hbounded.mpr ⟨h.validatorHotkey, h.epochIndex,
          h.manifestCount, h.deploymentCount, h.endpointCount⟩, hcount, fun o ho => ?_⟩
      exact hsum o (hperm.mem_iff.mp ho)

end Organic

end Misscomputer
