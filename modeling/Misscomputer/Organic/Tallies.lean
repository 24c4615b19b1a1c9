import Misscomputer.Organic.Scoring

set_option relaxedAutoImplicit false
set_option autoImplicit false

/-!
# The tallies of an epoch

What the loop over an epoch's observations accepts and what it leaves in its dictionaries: the observations
lie in the epoch, pair UIDs and hotkeys one to one, give each endpoint one identity and at most sixteen
attempts; and the tally of an endpoint counts its observations.

## Main definitions

* `Organic.Tallied` — the observations the loop accepts.
* `Organic.ledger` — the dictionaries after the loop.
* `Organic.Tally.of` — the tally of an endpoint, from its observations.

## Main results

* `Organic.foldlM_observe` — the loop returns exactly on these observations, and returns these dictionaries.
* `Organic.deriveEpoch_eq_ok` — hence what `_derive_epoch` returns.
* `Organic.get_tallies` — the tally stored for an endpoint.
-/

namespace Misscomputer

namespace Organic

open Contract

/-- The timestamp lies in the epoch. -/
def InEpoch (epochSeconds epochIndex : ℤ) (issuedAt : String) : Prop :=
  ∃ seconds, timestampEpochSeconds issuedAt = some seconds ∧ epochIndexOf seconds epochSeconds = epochIndex

lemma checkEpoch_eq_ok {epochSeconds epochIndex : ℤ} {issuedAt : String} {u : Unit} :
    checkEpoch epochSeconds epochIndex issuedAt = .ok u ↔ InEpoch epochSeconds epochIndex issuedAt := by
  rw [checkEpoch, InEpoch]
  cases timestampEpochSeconds issuedAt with
  | none => simp
  | some seconds => simp

/-- The UID and the hotkey of an observation's miner. -/
def OrganicProbeObservation.miner (o : OrganicProbeObservation) : ℤ × String := (o.minerUID, o.minerHotkey)

/-- What an endpoint's tally is opened with. -/
def OrganicProbeObservation.identity (o : OrganicProbeObservation) : String × ℤ × String :=
  (o.deploymentID, o.minerUID, o.minerHotkey)

/-- The observations of an endpoint. -/
def ofEndpoint (observations : List OrganicProbeObservation) (endpoint : String) :
    List OrganicProbeObservation :=
  observations.filter fun o => o.endpointID = endpoint

/-- The observations the loop accepts. -/
structure Tallied (epochSeconds epochIndex : ℤ) (observations : List OrganicProbeObservation) : Prop where
  /-- All lie in the epoch. -/
  epoch : ∀ o ∈ observations, InEpoch epochSeconds epochIndex o.issuedAt
  /-- UIDs and hotkeys are paired one to one. -/
  miners : Dict.OneToOne (observations.map OrganicProbeObservation.miner)
  /-- An endpoint has one identity. -/
  identities : ∀ o ∈ observations, ∀ p ∈ observations, o.endpointID = p.endpointID → o.identity = p.identity
  /-- An endpoint has at most sixteen attempts. -/
  attempts : ∀ endpoint, (ofEndpoint observations endpoint).length ≤ maxAttemptsPerEndpoint

/-- The tally of an endpoint, opened by its first observation. -/
def Tally.of (first : OrganicProbeObservation) (observations : List OrganicProbeObservation) : Tally where
  deploymentID := first.deploymentID
  minerUID := first.minerUID
  minerHotkey := first.minerHotkey
  attempts := observations.length
  counts := fun party => observations.countP fun o => o.attribution = party
  frauds := observations.countP fun o => o.attestationStatus = .fraudulent

lemma Tally.new_eq_of (o : OrganicProbeObservation) : Tally.new o = Tally.of o [] := rfl

/-- One more observation, one more in each count it belongs to. -/
lemma Tally.charge_of (first o : OrganicProbeObservation) (observations : List OrganicProbeObservation) :
    (Tally.of first observations).charge o = Tally.of first (observations ++ [o]) := by
  rw [charge, of, of]
  congr 1
  · rw [List.length_append, List.length_singleton]
  · funext party
    rw [List.countP_append, List.countP_singleton]
    by_cases h : party = o.attribution
    · simp [h]
    · simp [h, Ne.symm h]
  · rw [List.countP_append, List.countP_singleton]
    by_cases h : o.attestationStatus = .fraudulent <;> simp [h]

/-- How an observation changes the tally of its endpoint. -/
def chargeTally (tally : Option Tally) (o : OrganicProbeObservation) : Tally :=
  (tally.getD (Tally.new o)).charge o

lemma foldl_chargeTally (first : OrganicProbeObservation) (observations : List OrganicProbeObservation) :
    (first :: observations).foldl (fun tally o => some (chargeTally tally o)) none =
      some (Tally.of first (first :: observations)) := by
  induction observations using List.reverseRecOn with
  | nil =>
    rw [List.foldl_cons, List.foldl_nil, chargeTally, Option.getD_none, Tally.new_eq_of, Tally.charge_of]
    rfl
  | append_singleton observations o ih =>
    rw [← List.cons_append, List.foldl_append, ih, List.foldl_cons, List.foldl_nil, chargeTally,
      Option.getD_some, Tally.charge_of]

/-- The dictionaries after the loop. -/
def ledger (observations : List OrganicProbeObservation) : Ledger where
  tallies := Dict.collect OrganicProbeObservation.endpointID chargeTally observations
  fraud := (observations.filter fun o => o.attestationStatus = .fraudulent).map fraudRow
  identities := Dict.firsts (observations.map OrganicProbeObservation.miner)
  hotkeys := Dict.firsts ((observations.map OrganicProbeObservation.miner).map Prod.swap)

/-- **The tally stored for an endpoint** counts its observations. -/
theorem get_tallies (observations : List OrganicProbeObservation) (endpoint : String) :
    (ledger observations).tallies.get endpoint = (observations.find? fun o => o.endpointID = endpoint).map
      fun first => Tally.of first (ofEndpoint observations endpoint) := by
  rw [ledger, Dict.get_collect, ofEndpoint, ← List.head?_filter]
  cases observations.filter fun o => o.endpointID = endpoint with
  | nil => rfl
  | cons first rest => exact foldl_chargeTally first rest

/-- The tally an observation meets: the one stored, or a new one. -/
def met (observations : List OrganicProbeObservation) (o : OrganicProbeObservation) : Tally :=
  ((ledger observations).tallies.get o.endpointID).getD (Tally.new o)

lemma met_attempts (observations : List OrganicProbeObservation) (o : OrganicProbeObservation) :
    (met observations o).attempts = (ofEndpoint observations o.endpointID).length := by
  rw [met, get_tallies, ← List.head?_filter, ofEndpoint]
  cases observations.filter fun p => p.endpointID = o.endpointID <;> rfl

/-- The tally has the observation's identity exactly when all observations of the endpoint have it. -/
lemma met_identity {observations : List OrganicProbeObservation} (o : OrganicProbeObservation)
    (hall : ∀ p ∈ observations, ∀ q ∈ observations, p.endpointID = q.endpointID → p.identity = q.identity) :
    ((met observations o).deploymentID, (met observations o).minerUID, (met observations o).minerHotkey) =
        (o.deploymentID, o.minerUID, o.minerHotkey) ↔
      ∀ p ∈ observations, p.endpointID = o.endpointID → p.identity = o.identity := by
  rw [met, get_tallies]
  cases hfind : observations.find? fun p => p.endpointID = o.endpointID with
  | none =>
    have hnone : ∀ p ∈ observations, p.endpointID ≠ o.endpointID := by simpa using hfind
    exact iff_of_true rfl fun p hp hend => absurd hend (hnone p hp)
  | some first =>
    have hmem := List.mem_of_find?_eq_some hfind
    have hend : first.endpointID = o.endpointID := by simpa using List.find?_some hfind
    constructor
    · intro h p hp hpend
      exact (hall p hp first hmem (hpend.trans hend.symm)).trans h
    · intro h
      exact h first hmem hend

/-! ## The loop -/

lemma tallied_nil (epochSeconds epochIndex : ℤ) : Tallied epochSeconds epochIndex [] where
  epoch := by simp
  miners := Dict.oneToOne_nil
  identities := by simp
  attempts := by simp [ofEndpoint]

section Round

variable {epochSeconds epochIndex : ℤ} {observations : List OrganicProbeObservation}
  {o : OrganicProbeObservation}

lemma ofEndpoint_concat (endpoint : String) : ofEndpoint (observations ++ [o]) endpoint =
    ofEndpoint observations endpoint ++ if o.endpointID = endpoint then [o] else [] := by
  rw [ofEndpoint, List.filter_append, ofEndpoint]
  by_cases h : o.endpointID = endpoint <;> simp [h]

/-- What one more observation has to satisfy. -/
lemma tallied_concat : Tallied epochSeconds epochIndex (observations ++ [o]) ↔
    Tallied epochSeconds epochIndex observations ∧ InEpoch epochSeconds epochIndex o.issuedAt ∧
      Dict.OneToOne (observations.map OrganicProbeObservation.miner ++ [o.miner]) ∧
      (∀ p ∈ observations, p.endpointID = o.endpointID → p.identity = o.identity) ∧
      (ofEndpoint observations o.endpointID).length + 1 ≤ maxAttemptsPerEndpoint := by
  constructor
  · intro h
    have hsub : ∀ p ∈ observations, p ∈ observations ++ [o] := fun p hp => List.mem_append_left _ hp
    have hlast : o ∈ observations ++ [o] := by simp
    have hminers := h.miners
    rw [List.map_append, List.map_singleton] at hminers
    refine ⟨⟨fun p hp => h.epoch p (hsub p hp), (Dict.oneToOne_concat.mp hminers).1,
      fun p hp q hq => h.identities p (hsub p hp) q (hsub q hq), fun endpoint => ?_⟩,
      h.epoch o hlast, hminers, fun p hp => h.identities p (hsub p hp) o hlast, ?_⟩
    · have := h.attempts endpoint
      rw [ofEndpoint_concat, List.length_append] at this
      omega
    · have := h.attempts o.endpointID
      rwa [ofEndpoint_concat, if_pos rfl, List.length_append, List.length_singleton] at this
  · rintro ⟨h, hepoch, hminers, hidentity, hattempts⟩
    constructor
    · intro p hp
      rcases List.mem_append.mp hp with hp | hp
      · exact h.epoch p hp
      · rw [List.mem_singleton.mp hp]
        exact hepoch
    · rwa [List.map_append, List.map_singleton]
    · intro p hp q hq hend
      rcases List.mem_append.mp hp with hp | hp <;> rcases List.mem_append.mp hq with hq | hq
      · exact h.identities p hp q hq hend
      · rw [List.mem_singleton.mp hq] at hend ⊢
        exact hidentity p hp hend
      · rw [List.mem_singleton.mp hp] at hend ⊢
        exact (hidentity q hq hend.symm).symm
      · rw [List.mem_singleton.mp hp, List.mem_singleton.mp hq]
    · intro endpoint
      rw [ofEndpoint_concat, List.length_append]
      by_cases hend : o.endpointID = endpoint
      · rw [if_pos hend, ← hend]
        exact hattempts
      · rw [if_neg hend]
        exact h.attempts endpoint

lemma ledger_concat : ledger (observations ++ [o]) =
    { tallies := (ledger observations).tallies.set o.endpointID ((met observations o).charge o)
      fraud := if o.attestationStatus = .fraudulent then (ledger observations).fraud ++ [fraudRow o]
        else (ledger observations).fraud
      identities := (ledger observations).identities.setdefault o.minerUID o.minerHotkey
      hotkeys := (ledger observations).hotkeys.setdefault o.minerHotkey o.minerUID } := by
  rw [ledger]
  congr 1
  · exact Dict.collect_concat observations o
  · rw [List.filter_append, List.map_append]
    by_cases h : o.attestationStatus = .fraudulent <;> simp [h, ledger]
  · rw [List.map_append]
    exact Dict.firsts_concat _ o.minerUID o.minerHotkey
  · rw [List.map_append, List.map_append]
    exact Dict.firsts_concat _ o.minerHotkey o.minerUID

/-- **One round of the loop.** -/
lemma observe_eq_ok (h : Tallied epochSeconds epochIndex observations) {s : Ledger} :
    (ledger observations).observe epochSeconds epochIndex o = .ok s ↔
      Tallied epochSeconds epochIndex (observations ++ [o]) ∧ s = ledger (observations ++ [o]) := by
  have hminers := Dict.agrees_iff h.miners o.miner
  have hidentity := met_identity o h.identities
  have hattempts := met_attempts observations o
  rw [tallied_concat, ledger_concat, Ledger.observe]
  simp only [Except.bind_eq_ok, checkEpoch_eq_ok, Except.reject_eq_ok]
  rw [← hminers, ← hidentity, ← hattempts]
  change (∃ _, _ ∧ ∃ _, _ ∧ ∃ _, _ ∧ ∃ _, _ ∧ Except.ok _ = Except.ok s) ↔ _
  simp only [exists_const, Except.ok.injEq, not_or, not_not, not_lt, ne_eq, h, true_and,
    OrganicProbeObservation.miner]
  constructor
  · rintro ⟨hepoch, hpair, hid, hcount, rfl⟩
    exact ⟨⟨hepoch, hpair, hid, hcount⟩, rfl⟩
  · rintro ⟨⟨hepoch, hpair, hid, hcount⟩, rfl⟩
    exact ⟨hepoch, hpair, hid, hcount, rfl⟩

end Round

/-- **What the loop over the observations accepts and returns.**

**Proof sketch.** `Except.foldlM_eq_ok` with the dictionaries of the observations so far. -/
theorem foldlM_observe {epochSeconds epochIndex : ℤ} {observations : List OrganicProbeObservation}
    {s : Ledger} :
    observations.foldlM (Ledger.observe epochSeconds epochIndex) ⟨[], [], [], []⟩ = .ok s ↔
      Tallied epochSeconds epochIndex observations ∧ s = ledger observations := by
  have hstart : ledger [] = ⟨[], [], [], []⟩ := rfl
  rw [← hstart]
  apply Except.foldlM_eq_ok (tallied_nil epochSeconds epochIndex)
  · intro l o h
    exact (tallied_concat.mp h).1
  · intro l o s h
    exact observe_eq_ok h

/-- **What `_derive_epoch` accepts and returns.** -/
theorem deriveEpoch_eq_ok {observations : List OrganicProbeObservation}
    {corroboration : List ServingCorroboration} {epochSeconds epochIndex minAttempts : ℤ}
    {derived : Derived} :
    deriveEpoch observations corroboration epochSeconds epochIndex minAttempts = .ok derived ↔
      Tallied epochSeconds epochIndex observations ∧
        derived = summarize epochSeconds epochIndex minAttempts (ledger observations) corroboration := by
  rw [deriveEpoch, Except.bind_eq_ok]
  simp only [foldlM_observe]
  constructor
  · rintro ⟨s, ⟨htallied, rfl⟩, h⟩
    exact ⟨htallied, (Except.ok.inj h).symm⟩
  · rintro ⟨htallied, rfl⟩
    exact ⟨_, ⟨htallied, rfl⟩, rfl⟩

end Organic

end Misscomputer
