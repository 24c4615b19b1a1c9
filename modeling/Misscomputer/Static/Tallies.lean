import Misscomputer.Organic.Epochs
import Misscomputer.Static.EpochScore

set_option relaxedAutoImplicit false
set_option autoImplicit false

/-!
# The tallies of a static epoch

What the two loops of the static scorer accept and leave behind: the endpoints of the targets are distinct
and pair UIDs and hotkeys one to one; the observations lie in the epoch, name a published endpoint and the
digests of an authenticated index, sixteen to an endpoint at most; and the tally of an endpoint has seen
exactly its observations.

## Main definitions

* `StaticScoring.Apart` — the targets the first loop accepts.
* `StaticScoring.Tallied` — the observations the second loop accepts.
* `StaticScoring.talliesOf` — the tallies after both loops.

## Main results

* `StaticScoring.deriveStaticEpoch_eq_ok` — what `_derive_static_epoch` accepts and returns.

## References

* `src/misscomputer_subnet/static_scoring.py` (`_derive_static_epoch`)
-/

namespace Misscomputer

namespace StaticScoring

open Contract
open Except (reject)
open Organic (InEpoch)
open StaticIndex (StaticDeploymentTarget StaticEndpointTarget)
open StaticProbe

/-- An endpoint of a deployment. -/
abbrev Incarnation : Type := StaticDeploymentTarget × StaticEndpointTarget

/-- The endpoint of an incarnation. -/
def Incarnation.id (item : Incarnation) : String := item.2.endpointID

/-- The miner of an incarnation. -/
def Incarnation.miner (item : Incarnation) : ℤ × String := (item.2.minerUID, item.2.minerHotkey)

/-- The targets the first loop accepts: distinct endpoints, and UIDs and hotkeys paired one to one. -/
def Apart (items : List Incarnation) : Prop :=
  (items.map Incarnation.id).Nodup ∧ Dict.OneToOne (items.map Incarnation.miner)

/-- The observations of an endpoint. -/
def ofEndpoint (observations : List StaticProbeObservation) (endpoint : String) :
    List StaticProbeObservation :=
  observations.filter fun o => o.endpointID = endpoint

/-- The tallies of the incarnations, after some observations. -/
def talliesOf (items : List Incarnation) (observations : List StaticProbeObservation) : Dict String Tally :=
  items.map fun item => (item.id, ⟨item.1, item.2, ofEndpoint observations item.id⟩)

/-! ## The loop over the targets -/

/-- The dictionaries after the loop over the targets. -/
def published (items : List Incarnation) : Published where
  tallies := talliesOf items []
  identities := Dict.firsts (items.map Incarnation.miner)
  hotkeys := Dict.firsts ((items.map Incarnation.miner).map Prod.swap)

lemma keys_talliesOf (items : List Incarnation) (observations : List StaticProbeObservation) :
    (talliesOf items observations).keys = items.map Incarnation.id := by
  rw [Dict.keys, talliesOf, List.map_map]
  rfl

section Targets

variable {items : List Incarnation} {item : Incarnation}

lemma apart_concat : Apart (items ++ [item]) ↔ Apart items ∧ item.id ∉ items.map Incarnation.id ∧
    Dict.OneToOne (items.map Incarnation.miner ++ [item.miner]) := by
  rw [Apart, Apart, List.map_append, List.map_append, List.map_singleton, List.map_singleton,
    Organic.nodup_concat]
  constructor
  · rintro ⟨⟨hids, hnew⟩, hpair⟩
    exact ⟨⟨hids, (Dict.oneToOne_concat.mp hpair).1⟩, hnew, hpair⟩
  · rintro ⟨⟨hids, -⟩, hnew, hpair⟩
    exact ⟨⟨hids, hnew⟩, hpair⟩

/-- **One round of the loop over the targets.** -/
lemma add_eq_ok (h : Apart items) {s : Published} :
    (published items).add item = .ok s ↔ Apart (items ++ [item]) ∧ s = published (items ++ [item]) := by
  have hpair := Dict.agrees_iff h.2 item.miner
  have hkeys := keys_talliesOf items []
  have hidentities : (published (items ++ [item])).identities =
      (published items).identities.setdefault item.2.minerUID item.2.minerHotkey := by
    rw [published, List.map_append]
    exact Dict.firsts_concat _ item.2.minerUID item.2.minerHotkey
  have hhotkeys : (published (items ++ [item])).hotkeys =
      (published items).hotkeys.setdefault item.2.minerHotkey item.2.minerUID := by
    rw [published, List.map_append, List.map_append]
    exact Dict.firsts_concat _ item.2.minerHotkey item.2.minerUID
  rw [apart_concat, Published.add, ← hpair]
  simp only [Except.bind_eq_ok, Except.reject_eq_ok, exists_const]
  rw [not_or, not_or, not_not, not_not, ← hidentities, ← hhotkeys]
  have htallies : item.id ∉ items.map Incarnation.id →
      (published items).tallies.set item.2.endpointID ⟨item.1, item.2, []⟩ =
        (published (items ++ [item])).tallies := by
    intro hnew
    rw [Dict.set, if_neg (by rw [published, hkeys]; exact hnew)]
    rw [published, published, talliesOf, talliesOf, List.map_append]
    rfl
  constructor
  · rintro ⟨⟨hnew, hagree⟩, hs⟩
    have hnew : item.id ∉ items.map Incarnation.id := by
      rw [← hkeys]
      exact hnew
    refine ⟨⟨h, hnew, hagree⟩, (Except.ok.inj hs).symm.trans ?_⟩
    rw [htallies hnew]
  · rintro ⟨⟨-, hnew, hagree⟩, rfl⟩
    refine ⟨⟨?_, hagree⟩, ?_⟩
    · rw [published, hkeys]
      exact hnew
    · rw [htallies hnew]
      rfl

lemma foldlM_add {s : Published} :
    items.foldlM Published.add ⟨[], [], []⟩ = .ok s ↔ Apart items ∧ s = published items := by
  have hstart : published [] = ⟨[], [], []⟩ := rfl
  rw [← hstart]
  apply Except.foldlM_eq_ok
  · exact ⟨List.nodup_nil, Dict.oneToOne_nil⟩
  · intro l a h
    exact (apart_concat.mp h).1
  · intro l a s h
    exact add_eq_ok h

end Targets

/-! ## The loop over the observations -/

/-- What the second loop asks of an observation alone. -/
def Placed (items : List Incarnation) (indexed : Dict String (String × String)) (epochSeconds epochIndex : ℤ)
    (o : StaticProbeObservation) : Prop :=
  InEpoch epochSeconds epochIndex o.issuedAt ∧ o.endpointID ∈ items.map Incarnation.id ∧
    indexed.get o.deploymentID = some (o.releaseDigest, o.releaseTrustPolicyDigestSha256)

/-- The observations the second loop accepts. -/
def Tallied (items : List Incarnation) (indexed : Dict String (String × String)) (epochSeconds epochIndex : ℤ)
    (observations : List StaticProbeObservation) : Prop :=
  (∀ o ∈ observations, Placed items indexed epochSeconds epochIndex o) ∧
    ∀ endpoint, (ofEndpoint observations endpoint).length ≤ maxAttemptsPerEndpoint

section Observations

variable {items : List Incarnation} {indexed : Dict String (String × String)} {epochSeconds epochIndex : ℤ}
  {observations : List StaticProbeObservation} {o : StaticProbeObservation}

lemma ofEndpoint_concat (endpoint : String) : ofEndpoint (observations ++ [o]) endpoint =
    ofEndpoint observations endpoint ++ if o.endpointID = endpoint then [o] else [] := by
  rw [ofEndpoint, List.filter_append, ofEndpoint]
  by_cases h : o.endpointID = endpoint <;> simp [h]

lemma tallied_concat : Tallied items indexed epochSeconds epochIndex (observations ++ [o]) ↔
    Tallied items indexed epochSeconds epochIndex observations ∧
      Placed items indexed epochSeconds epochIndex o ∧
      (ofEndpoint observations o.endpointID).length + 1 ≤ maxAttemptsPerEndpoint := by
  rw [Tallied, Tallied, List.forall_mem_append, List.forall_mem_singleton]
  constructor
  · rintro ⟨⟨hplaced, ho⟩, hattempts⟩
    refine ⟨⟨hplaced, fun endpoint => ?_⟩, ho, ?_⟩
    · have := hattempts endpoint
      rw [ofEndpoint_concat, List.length_append] at this
      omega
    · have := hattempts o.endpointID
      rwa [ofEndpoint_concat, if_pos rfl, List.length_append, List.length_singleton] at this
  · rintro ⟨⟨hplaced, hattempts⟩, ho, hlast⟩
    refine ⟨⟨hplaced, ho⟩, fun endpoint => ?_⟩
    rw [ofEndpoint_concat, List.length_append]
    by_cases hend : o.endpointID = endpoint
    · rw [if_pos hend, ← hend]
      exact hlast
    · rw [if_neg hend]
      exact hattempts endpoint

/-- The tally stored for an endpoint. -/
lemma get_talliesOf (h : (items.map Incarnation.id).Nodup) {item : Incarnation} (hitem : item ∈ items) :
    (talliesOf items observations).get item.id = some ⟨item.1, item.2, ofEndpoint observations item.id⟩ := by
  apply (Dict.mem_iff_get _).mp
  · exact List.mem_map_of_mem hitem
  · rw [keys_talliesOf]
    exact h

/-- One more observation extends the tally of its endpoint. -/
lemma set_talliesOf (h : (items.map Incarnation.id).Nodup) {item : Incarnation} (hitem : item ∈ items)
    (hend : o.endpointID = item.id) : (talliesOf items observations).set o.endpointID
      ⟨item.1, item.2, ofEndpoint observations o.endpointID ++ [o]⟩ = talliesOf items (observations ++ [o]) := by
  have hmem : o.endpointID ∈ (talliesOf items observations).keys := by
    rw [keys_talliesOf, hend]
    exact List.mem_map_of_mem hitem
  rw [Dict.set, if_pos hmem, talliesOf, List.map_map, talliesOf]
  apply List.map_congr_left
  intro other hother
  rw [Function.comp_apply]
  by_cases hsame : other.id = o.endpointID
  · have hid : other = item := List.inj_on_of_nodup_map h hother hitem (hsame.trans hend)
    rw [if_pos hsame, hid, ofEndpoint_concat, if_pos hend, hend]
  · rw [if_neg hsame, ofEndpoint_concat, if_neg (Ne.symm hsame), List.append_nil]

lemma checkEpoch_eq_ok {issuedAt : String} {u : Unit} :
    checkEpoch epochSeconds epochIndex issuedAt = .ok u ↔ InEpoch epochSeconds epochIndex issuedAt := by
  rw [checkEpoch, InEpoch]
  cases timestampEpochSeconds issuedAt with
  | none => simp
  | some seconds => simp

/-- **One round of the loop over the observations.** -/
lemma observe_eq_ok (hitems : Apart items) (h : Tallied items indexed epochSeconds epochIndex observations)
    {tallies : Dict String Tally} :
    observe indexed epochSeconds epochIndex (talliesOf items observations) o = .ok tallies ↔
      Tallied items indexed epochSeconds epochIndex (observations ++ [o]) ∧
        tallies = talliesOf items (observations ++ [o]) := by
  rw [tallied_concat, observe, Except.bind_eq_ok, Placed]
  simp only [checkEpoch_eq_ok, exists_const]
  by_cases hmem : o.endpointID ∈ items.map Incarnation.id
  · obtain ⟨item, hitem, hid⟩ := List.mem_map.mp hmem
    have hget : (talliesOf items observations).get o.endpointID =
        some ⟨item.1, item.2, ofEndpoint observations o.endpointID⟩ := by
      rw [← hid]
      exact get_talliesOf hitems.1 hitem
    rw [hget]
    simp only [Except.bind_eq_ok, Except.reject_eq_ok, exists_const]
    rw [not_not, not_lt, List.length_append, List.length_singleton, set_talliesOf hitems.1 hitem hid.symm]
    constructor
    · rintro ⟨hin, hindex, hcount, hs⟩
      exact ⟨⟨h, ⟨hin, hmem, hindex⟩, hcount⟩, (Except.ok.inj hs).symm⟩
    · rintro ⟨⟨-, ⟨hin, -, hindex⟩, hcount⟩, rfl⟩
      exact ⟨hin, hindex, hcount, rfl⟩
  · have hnone : (talliesOf items observations).get o.endpointID = none := by
      rw [Dict.get_eq_none_iff, keys_talliesOf]
      exact hmem
    rw [hnone]
    constructor
    · rintro ⟨-, hs⟩
      cases hs
    · rintro ⟨⟨-, ⟨-, hin, -⟩, -⟩, -⟩
      exact absurd hin hmem

lemma foldlM_observe (hitems : Apart items) {tallies : Dict String Tally} :
    observations.foldlM (observe indexed epochSeconds epochIndex) (published items).tallies = .ok tallies ↔
      Tallied items indexed epochSeconds epochIndex observations ∧ tallies = talliesOf items observations := by
  have hstart : (published items).tallies = talliesOf items [] := rfl
  rw [hstart]
  apply Except.foldlM_eq_ok
  · exact ⟨by simp, by simp [ofEndpoint]⟩
  · intro l o h
    exact (tallied_concat.mp h).1
  · intro l o s h
    exact observe_eq_ok hitems h

end Observations

/-- **What `_derive_static_epoch` accepts and returns.** -/
theorem deriveStaticEpoch_eq_ok {targets : List StaticDeploymentTarget}
    {indexed : Dict String (String × String)} {abstained : Dict String AbstentionRecordCode}
    {observations : List StaticProbeObservation} {epochSeconds epochIndex minAttempts : ℤ}
    {derived : StaticDerived} :
    deriveStaticEpoch targets indexed abstained observations epochSeconds epochIndex minAttempts =
        .ok derived ↔
      Apart (incarnations targets) ∧
        Tallied (incarnations targets) indexed epochSeconds epochIndex observations ∧
        derived = summarize indexed abstained minAttempts (talliesOf (incarnations targets) observations) := by
  rw [deriveStaticEpoch, Except.bind_eq_ok]
  simp only [foldlM_add]
  constructor
  · rintro ⟨s, ⟨hapart, rfl⟩, h⟩
    rw [Except.bind_eq_ok] at h
    obtain ⟨tallies, hloop, hs⟩ := h
    obtain ⟨htallied, rfl⟩ := (foldlM_observe hapart).mp hloop
    exact ⟨hapart, htallied, (Except.ok.inj hs).symm⟩
  · rintro ⟨hapart, htallied, rfl⟩
    refine ⟨_, ⟨hapart, rfl⟩, ?_⟩
    rw [(foldlM_observe hapart).mpr ⟨htallied, rfl⟩]
    rfl

end StaticScoring

end Misscomputer
