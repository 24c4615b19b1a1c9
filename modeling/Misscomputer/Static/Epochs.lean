import Misscomputer.Static.Tallies

set_option relaxedAutoImplicit false
set_option autoImplicit false

/-!
# The static epochs that are scored

The static scorer admits its arguments in five loops and then seals what the admitted evidence says. The
conditions of the loops are stated here without an order, and the evidence in its canonical one, so that an
epoch is scored on all orders of its arguments or on none.

## Main definitions

* `StaticScoring.Admissible` — what the arguments have to satisfy.
* `StaticScoring.evidenceOf` — the evidence of admissible arguments, in canonical order.

## Main results

* `StaticScoring.scoreStaticEpoch_eq_ok` — the epoch is scored exactly on admissible arguments whose evidence
  can be sealed.

## References

* `src/misscomputer_subnet/static_scoring.py` (`score_static_epoch`)
-/

namespace Misscomputer

namespace StaticScoring

open Contract
open Except (reject)
open Organic (InEpoch)
open StaticIndex (AuthenticatedIndex StaticDeploymentTarget StaticEndpointTarget)
open StaticProbe

/-- The deployment of an index. -/
def indexID (index : AuthenticatedIndex) : String := index.target.deploymentID

/-- Two targets of one deployment are one target. -/
def Coherent (targets : List StaticDeploymentTarget) : Prop :=
  ∀ d ∈ targets, ∀ d' ∈ targets, d.deploymentID = d'.deploymentID → d = d'

/-! ## The loop over the targets -/

section Targets

variable {targets : List StaticDeploymentTarget} {d : StaticDeploymentTarget}

/-- `by_id`, after the loop over the targets. -/
def byIDOf (targets : List StaticDeploymentTarget) : Dict String StaticDeploymentTarget :=
  Dict.firsts (targets.map fun d => (d.deploymentID, d))

lemma coherent_concat : Coherent (targets ++ [d]) ↔
    Coherent targets ∧ ∀ d' ∈ targets, d'.deploymentID = d.deploymentID → d' = d := by
  constructor
  · intro h
    refine ⟨fun a ha b hb => h a (List.mem_append_left _ ha) b (List.mem_append_left _ hb), ?_⟩
    intro a ha
    exact h a (List.mem_append_left _ ha) d (by simp)
  · rintro ⟨hold, hnew⟩ a ha b hb hid
    rw [List.mem_append, List.mem_singleton] at ha hb
    rcases ha with ha | rfl <;> rcases hb with hb | rfl
    · exact hold a ha b hb hid
    · exact hnew a ha hid
    · exact (hnew b hb hid.symm).symm
    · rfl

/-- What `by_id` holds. -/
lemma get_byIDOf (h : Coherent targets) {key : String} :
    (byIDOf targets).get key = some d ↔ d ∈ targets ∧ d.deploymentID = key := by
  rw [byIDOf, Dict.get_firsts, Option.map_eq_some_iff]
  constructor
  · rintro ⟨entry, hentry, rfl⟩
    obtain ⟨d', hd', rfl⟩ := List.mem_map.mp (List.mem_of_find?_eq_some hentry)
    exact ⟨hd', by simpa using List.find?_some hentry⟩
  · rintro ⟨hd, hkey⟩
    have hsome : ((targets.map fun d => (d.deploymentID, d)).find? fun e => e.1 = key).isSome := by
      rw [List.find?_isSome]
      exact ⟨_, List.mem_map_of_mem hd, by simpa using hkey⟩
    obtain ⟨entry, hentry⟩ := Option.isSome_iff_exists.mp hsome
    refine ⟨entry, hentry, ?_⟩
    obtain ⟨d', hd', rfl⟩ := List.mem_map.mp (List.mem_of_find?_eq_some hentry)
    have hkey' : d'.deploymentID = key := by simpa using List.find?_some hentry
    exact h d' hd' d hd (hkey'.trans hkey.symm)

lemma mem_keys_byIDOf {key : String} :
    key ∈ (byIDOf targets).keys ↔ ∃ d ∈ targets, d.deploymentID = key := by
  rw [byIDOf, Dict.firsts, Dict.mem_keys_collect]
  simp

/-- A further target is accepted when it is the one stored, if any. -/
lemma getD_byIDOf (h : Coherent targets) : ((byIDOf targets).get d.deploymentID).getD d = d ↔
    ∀ d' ∈ targets, d'.deploymentID = d.deploymentID → d' = d := by
  cases hget : (byIDOf targets).get d.deploymentID with
  | none =>
    rw [Dict.get_eq_none_iff, mem_keys_byIDOf] at hget
    refine ⟨fun _ d' hd' hid => absurd ⟨d', hd', hid⟩ hget, fun _ => rfl⟩
  | some stored =>
    obtain ⟨hstored, hid⟩ := (get_byIDOf h).mp hget
    rw [Option.getD_some]
    constructor
    · rintro rfl d' hd' hid'
      exact h d' hd' stored hstored hid'
    · intro hall
      exact hall stored hstored hid

lemma revalidate_eq_ok {α : Type} {valid : α → Prop} [DecidablePred valid] {a : α} {u : Unit} :
    revalidate valid a = .ok u ↔ valid a := by
  rw [revalidate, Except.reject_eq_ok, not_not]

/-- **What the loop over the targets accepts.** -/
lemma foldlM_indexTarget {byID : Dict String StaticDeploymentTarget} :
    targets.foldlM indexTarget [] = .ok byID ↔
      ((∀ d ∈ targets, d.Valid) ∧ Coherent targets) ∧ byID = byIDOf targets := by
  have hstart : byIDOf [] = [] := rfl
  rw [← hstart]
  apply Except.foldlM_eq_ok
  · exact ⟨by simp, fun d hd => absurd hd List.not_mem_nil⟩
  · rintro l d ⟨hvalid, hcoherent⟩
    exact ⟨fun d hd => hvalid d (List.mem_append_left _ hd), (coherent_concat.mp hcoherent).1⟩
  · rintro l d s ⟨hvalid, hcoherent⟩
    have hset : byIDOf (l ++ [d]) = (byIDOf l).setdefault d.deploymentID d := by
      rw [byIDOf, List.map_append]
      exact Dict.firsts_concat _ d.deploymentID d
    rw [indexTarget]
    simp only [Except.bind_eq_ok, Except.reject_eq_ok, revalidate_eq_ok, exists_const]
    rw [not_not, getD_byIDOf hcoherent, coherent_concat, List.forall_mem_append, List.forall_mem_singleton,
      hset]
    constructor
    · rintro ⟨hd, hnew, hs⟩
      exact ⟨⟨⟨hvalid, hd⟩, hcoherent, hnew⟩, (Except.ok.inj hs).symm⟩
    · rintro ⟨⟨⟨-, hd⟩, -, hnew⟩, rfl⟩
      exact ⟨hd, hnew, rfl⟩

end Targets

/-! ## The loops over the state of the indexes -/

section States

variable {targets : List StaticDeploymentTarget} {indexes : List AuthenticatedIndex}
  {abstentions : List StaticIndexAbstention}

/-- `verified`, after the loop over the indexes. -/
def verifiedOf (indexes : List AuthenticatedIndex) : Dict String AuthenticatedIndex :=
  indexes.map fun index => (indexID index, index)

/-- `abstained`, after the loop over the abstentions. -/
def abstainedRows (abstentions : List StaticIndexAbstention) : Dict String StaticIndexAbstention :=
  abstentions.map fun row => (row.deploymentID, row)

lemma keys_verifiedOf (indexes : List AuthenticatedIndex) :
    (verifiedOf indexes).keys = indexes.map indexID := by
  rw [Dict.keys, verifiedOf, List.map_map]
  rfl

lemma keys_abstainedRows (abstentions : List StaticIndexAbstention) :
    (abstainedRows abstentions).keys = abstentions.map StaticIndexAbstention.deploymentID := by
  rw [Dict.keys, abstainedRows, List.map_map]
  rfl

/-- The indexes the loop accepts: of the targets, one to a deployment. -/
def Verified (targets : List StaticDeploymentTarget) (indexes : List AuthenticatedIndex) : Prop :=
  (∀ index ∈ indexes, index.target ∈ targets) ∧ (indexes.map indexID).Nodup

/-- The abstentions the loop accepts: of the targets without an index, one to a deployment. -/
def Abstained (targets : List StaticDeploymentTarget) (indexes : List AuthenticatedIndex)
    (abstentions : List StaticIndexAbstention) : Prop :=
  (∀ row ∈ abstentions, (∃ d ∈ targets, d.deploymentID = row.deploymentID ∧ d.siteDigest = row.siteDigest) ∧
      row.deploymentID ∉ indexes.map indexID) ∧
    (abstentions.map StaticIndexAbstention.deploymentID).Nodup

/-- **What the loop over the indexes accepts.** -/
lemma foldlM_verifyIndex (h : Coherent targets) {verified : Dict String AuthenticatedIndex} :
    indexes.foldlM (verifyIndex (byIDOf targets)) [] = .ok verified ↔
      Verified targets indexes ∧ verified = verifiedOf indexes := by
  have hstart : verifiedOf [] = [] := rfl
  rw [← hstart]
  apply Except.foldlM_eq_ok
  · exact ⟨by simp, List.nodup_nil⟩
  · rintro l index ⟨htargets, hnodup⟩
    rw [List.map_append, List.map_singleton, Organic.nodup_concat] at hnodup
    exact ⟨fun i hi => htargets i (List.mem_append_left _ hi), hnodup.1⟩
  · rintro l index s ⟨htargets, hnodup⟩
    have hconcat : Verified targets (l ++ [index]) ↔
        index.target ∈ targets ∧ indexID index ∉ l.map indexID := by
      rw [Verified, List.forall_mem_append, List.forall_mem_singleton, List.map_append, List.map_singleton,
        Organic.nodup_concat]
      exact ⟨fun h => ⟨h.1.2, h.2.2⟩, fun h => ⟨⟨htargets, h.1⟩, hnodup, h.2⟩⟩
    have hget : (byIDOf targets).get (indexID index) = some index.target ↔ index.target ∈ targets := by
      rw [get_byIDOf h]
      exact and_iff_left rfl
    rw [hconcat, verifyIndex]
    simp only [Except.bind_eq_ok, Except.reject_eq_ok, exists_const]
    rw [not_or, not_not]
    change (((byIDOf targets).get (indexID index) = some index.target ∧
      indexID index ∉ (verifiedOf l).keys) ∧ Except.ok ((verifiedOf l).set (indexID index) index) = .ok s) ↔ _
    rw [hget, Dict.set, keys_verifiedOf]
    constructor
    · rintro ⟨⟨htarget, hnew⟩, hs⟩
      rw [if_neg hnew] at hs
      refine ⟨⟨htarget, hnew⟩, (Except.ok.inj hs).symm.trans ?_⟩
      rw [verifiedOf, verifiedOf, List.map_append, List.map_singleton]
    · rintro ⟨⟨htarget, hnew⟩, rfl⟩
      refine ⟨⟨htarget, hnew⟩, ?_⟩
      rw [if_neg hnew, verifiedOf, verifiedOf, List.map_append, List.map_singleton]

/-- **What the loop over the abstentions accepts.** -/
lemma foldlM_abstain (h : Coherent targets) {abstained : Dict String StaticIndexAbstention} :
    abstentions.foldlM (abstain (byIDOf targets) (verifiedOf indexes)) [] = .ok abstained ↔
      Abstained targets indexes abstentions ∧ abstained = abstainedRows abstentions := by
  have hstart : abstainedRows [] = [] := rfl
  rw [← hstart]
  apply Except.foldlM_eq_ok
  · exact ⟨by simp, List.nodup_nil⟩
  · rintro l row ⟨hrows, hnodup⟩
    rw [List.map_append, List.map_singleton, Organic.nodup_concat] at hnodup
    exact ⟨fun r hr => hrows r (List.mem_append_left _ hr), hnodup.1⟩
  · rintro l row s ⟨hrows, hnodup⟩
    have hconcat : Abstained targets indexes (l ++ [row]) ↔
        ((∃ d ∈ targets, d.deploymentID = row.deploymentID ∧ d.siteDigest = row.siteDigest) ∧
          row.deploymentID ∉ indexes.map indexID) ∧
          row.deploymentID ∉ l.map StaticIndexAbstention.deploymentID := by
      rw [Abstained, List.forall_mem_append, List.forall_mem_singleton, List.map_append, List.map_singleton,
        Organic.nodup_concat]
      exact ⟨fun h => ⟨h.1.2, h.2.2⟩, fun h => ⟨⟨hrows, h.1⟩, hnodup, h.2⟩⟩
    have hget : ((byIDOf targets).get row.deploymentID).map StaticDeploymentTarget.siteDigest =
          some row.siteDigest ↔
        ∃ d ∈ targets, d.deploymentID = row.deploymentID ∧ d.siteDigest = row.siteDigest := by
      rw [Option.map_eq_some_iff]
      simp only [get_byIDOf h, and_assoc]
    rw [hconcat, abstain]
    simp only [Except.bind_eq_ok, Except.reject_eq_ok, exists_const]
    rw [not_or, not_or, not_not, hget, Dict.set, keys_verifiedOf, keys_abstainedRows]
    constructor
    · rintro ⟨⟨htarget, hindex, hnew⟩, hs⟩
      rw [if_neg hnew] at hs
      refine ⟨⟨⟨htarget, hindex⟩, hnew⟩, (Except.ok.inj hs).symm.trans ?_⟩
      rw [abstainedRows, abstainedRows, List.map_append, List.map_singleton]
    · rintro ⟨⟨⟨htarget, hindex⟩, hnew⟩, rfl⟩
      refine ⟨⟨htarget, hindex, hnew⟩, ?_⟩
      rw [if_neg hnew, abstainedRows, abstainedRows, List.map_append, List.map_singleton]
      rfl

end States

/-! ## The loop over the observations -/

/-- What the judging loop asks of an observation alone. -/
def Judges (ed25519 : String → String → List UInt8 → Bool) (policy : EpochPolicy)
    (indexes : List AuthenticatedIndex) (abstentions : List StaticIndexAbstention)
    (o : StaticProbeObservation) : Prop :=
  o.validatorHotkey = policy.validatorHotkey ∧ o.probeKind = .hidden ∧
    InEpoch policy.epochSeconds policy.epochIndex o.issuedAt ∧
    o.deploymentID ∉ abstentions.map StaticIndexAbstention.deploymentID ∧
    ∃ index ∈ indexes, indexID index = o.deploymentID ∧
      verifyObservation ed25519 o index policy.probeBodyCeiling = .ok ()

/-- The observations the judging loop accepts: each one judged, and no digest or nonce repeated. -/
def Judged (ed25519 : String → String → List UInt8 → Bool) (policy : EpochPolicy)
    (indexes : List AuthenticatedIndex) (abstentions : List StaticIndexAbstention)
    (observations : List StaticProbeObservation) : Prop :=
  (∀ o ∈ observations, Judges ed25519 policy indexes abstentions o) ∧
    (observations.map StaticProbeObservation.observationDigestSha256).Nodup ∧
    (observations.map StaticProbeObservation.probeNonce).Nodup

section Judge

variable {ed25519 : String → String → List UInt8 → Bool} {policy : EpochPolicy}
  {indexes : List AuthenticatedIndex} {abstentions : List StaticIndexAbstention}
  {observations : List StaticProbeObservation} {o : StaticProbeObservation}

/-- What the judging loop has seen. -/
def seenOf (observations : List StaticProbeObservation) : Seen where
  digests := observations.map StaticProbeObservation.observationDigestSha256
  nonces := observations.map StaticProbeObservation.probeNonce

lemma judged_concat : Judged ed25519 policy indexes abstentions (observations ++ [o]) ↔
    Judged ed25519 policy indexes abstentions observations ∧
      Judges ed25519 policy indexes abstentions o ∧
      o.observationDigestSha256 ∉ observations.map StaticProbeObservation.observationDigestSha256 ∧
      o.probeNonce ∉ observations.map StaticProbeObservation.probeNonce := by
  rw [Judged, Judged, List.forall_mem_append, List.forall_mem_singleton, List.map_append, List.map_append,
    List.map_singleton, List.map_singleton, Organic.nodup_concat, Organic.nodup_concat]
  constructor
  · rintro ⟨⟨hold, ho⟩, ⟨hdigests, hdigest⟩, hnonces, hnonce⟩
    exact ⟨⟨hold, hdigests, hnonces⟩, ho, hdigest, hnonce⟩
  · rintro ⟨⟨hold, hdigests, hnonces⟩, ho, hdigest, hnonce⟩
    exact ⟨⟨hold, ho⟩, ⟨hdigests, hdigest⟩, hnonces, hnonce⟩

lemma judgeAgainst_eq_ok (h : (indexes.map indexID).Nodup) {u : Unit} {ceiling : ℤ} :
    judgeAgainst ed25519 ceiling o ((verifiedOf indexes).get o.deploymentID) = .ok u ↔
      ∃ index ∈ indexes, indexID index = o.deploymentID ∧
        verifyObservation ed25519 o index ceiling = .ok () := by
  have hmem : ∀ index, (verifiedOf indexes).get o.deploymentID = some index ↔
      index ∈ indexes ∧ indexID index = o.deploymentID := by
    intro index
    rw [← Dict.mem_iff_get (by rw [keys_verifiedOf]; exact h), verifiedOf, List.mem_map]
    constructor
    · rintro ⟨index', hindex, heq⟩
      obtain ⟨hid, rfl⟩ := Prod.mk.inj heq
      exact ⟨hindex, hid⟩
    · rintro ⟨hindex, hid⟩
      exact ⟨index, hindex, by rw [hid]⟩
  cases hget : (verifiedOf indexes).get o.deploymentID with
  | none =>
    constructor
    · intro hfail
      cases hfail
    · rintro ⟨index, hindex, hid, -⟩
      rw [(hmem index).mpr ⟨hindex, hid⟩] at hget
      cases hget
  | some index =>
    rw [judgeAgainst, Except.mapError_eq_ok]
    constructor
    · intro hverify
      exact ⟨index, ((hmem index).mp hget).1, ((hmem index).mp hget).2, hverify⟩
    · rintro ⟨index', hindex, hid, hverify⟩
      rw [(hmem index').mpr ⟨hindex, hid⟩] at hget
      obtain rfl := Option.some.inj hget
      exact hverify

/-- **What the judging loop accepts.** -/
lemma foldlM_judge (h : (indexes.map indexID).Nodup) {seen : Seen} :
    observations.foldlM (judge ed25519 policy (verifiedOf indexes) (abstainedRows abstentions)) ⟨[], []⟩ =
        .ok seen ↔
      Judged ed25519 policy indexes abstentions observations ∧ seen = seenOf observations := by
  have hstart : seenOf [] = ⟨[], []⟩ := rfl
  rw [← hstart]
  apply Except.foldlM_eq_ok
  · exact ⟨by simp, List.nodup_nil, List.nodup_nil⟩
  · intro l o hl
    exact (judged_concat.mp hl).1
  · intro l o s hl
    rw [judged_concat, judge, Judges]
    simp only [Except.bind_eq_ok, Except.reject_eq_ok, checkEpoch_eq_ok, judgeAgainst_eq_ok h, exists_const]
    rw [keys_abstainedRows]
    simp only [not_or, not_not, ne_eq, hl, true_and]
    have hseen : seenOf (l ++ [o]) = ⟨(seenOf l).digests ++ [o.observationDigestSha256],
        (seenOf l).nonces ++ [o.probeNonce]⟩ := by
      rw [seenOf, List.map_append, List.map_append]
      rfl
    rw [hseen]
    constructor
    · rintro ⟨hvalidator, hkind, hnew, hepoch, habstained, hindex, hs⟩
      exact ⟨⟨⟨hvalidator, hkind, hepoch, habstained, hindex⟩, hnew⟩, (Except.ok.inj hs).symm⟩
    · rintro ⟨⟨⟨hvalidator, hkind, hepoch, habstained, hindex⟩, hnew⟩, rfl⟩
      exact ⟨hvalidator, hkind, hnew, hepoch, habstained, hindex, rfl⟩

end Judge

/-! ## The arguments that are admitted -/

/-- What the arguments have to satisfy for their evidence to be sealed. No condition depends on an order. -/
structure Admissible (ed25519 : String → String → List UInt8 → Bool) (targets : List StaticDeploymentTarget)
    (indexes : List AuthenticatedIndex) (abstentions : List StaticIndexAbstention)
    (observations : List StaticProbeObservation) (policy : EpochPolicy) : Prop where
  policyValid : policy.Valid
  /-- The arguments are not too long. -/
  few : targets.length ≤ maxDeployments ∧ observations.length ≤ maxObservations
  targetsValid : ∀ d ∈ targets, d.Valid
  coherent : Coherent targets
  verified : Verified targets indexes
  abstained : Abstained targets indexes abstentions
  /-- Every target has an index or abstains. -/
  complete : ∀ d ∈ targets, d.deploymentID ∈ indexes.map indexID ∨
    d.deploymentID ∈ abstentions.map StaticIndexAbstention.deploymentID
  /-- A release is revoked under a pinned authority only. -/
  revocable : policy.releaseRevocation = none → ∀ row ∈ abstentions, row.code ≠ .releaseRevoked
  observationsValid : ∀ o ∈ observations, o.Valid
  /-- The public framing is for one network. -/
  transport : policy.publicTransportPolicy ≠ none → (policy.network, policy.netuid) = (.test, 581)
  carried : ∀ o ∈ observations, policy.Carries o
  judged : Judged ed25519 policy indexes abstentions observations

/-- The evidence of admissible arguments, in canonical order. -/
def evidenceOf (targets : List StaticDeploymentTarget) (indexes : List AuthenticatedIndex)
    (abstentions : List StaticIndexAbstention) (observations : List StaticProbeObservation) : Evidence where
  targets := Sorting.sortOn StaticDeploymentTarget.deploymentID targets.dedup
  indexes := Sorting.sortOn indexID indexes
  abstentions := Sorting.sortOn StaticIndexAbstention.deploymentID abstentions
  observations := Sorting.sortOn observationOrder observations

/-- The evidence has the targets and the observations of the call. -/
lemma mem_evidenceOf (targets : List StaticDeploymentTarget) (indexes : List AuthenticatedIndex)
    (abstentions : List StaticIndexAbstention) (observations : List StaticProbeObservation) :
    (∀ d, d ∈ (evidenceOf targets indexes abstentions observations).targets ↔ d ∈ targets) ∧
      ∀ p, p ∈ (evidenceOf targets indexes abstentions observations).observations ↔ p ∈ observations := by
  refine ⟨fun d => ?_, fun p => ?_⟩
  · rw [evidenceOf, Sorting.mem_sortOn, List.mem_dedup]
  · rw [evidenceOf, Sorting.mem_sortOn]

/-- Sorting the entries of a dictionary sorts its values. -/
lemma map_sortOn_graph {α κ : Type} [LinearOrder κ] (key : α → κ) (l : List α) :
    (Sorting.sortOn Prod.fst (l.map fun a => (key a, a))).map Prod.snd = Sorting.sortOn key l := by
  have hmap : (Sorting.sortOn key l).map (fun a => (key a, a)) =
      Sorting.sortOn Prod.fst (l.map fun a => (key a, a)) :=
    List.map_insertionSort _ _ _ l fun _ _ _ _ => Iff.rfl
  rw [← hmap, List.map_map]
  exact List.map_id _

section Evidence

variable {targets : List StaticDeploymentTarget}

lemma nodup_ids_dedup (h : Coherent targets) :
    (targets.dedup.map StaticDeploymentTarget.deploymentID).Nodup := by
  refine targets.nodup_dedup.map_on ?_
  intro d hd d' hd'
  exact h d (List.mem_dedup.mp hd) d' (List.mem_dedup.mp hd')

/-- `by_id` in the order of its keys. -/
lemma sorted_byIDOf (h : Coherent targets) :
    (Sorting.sortOn Prod.fst (byIDOf targets)).map Prod.snd =
      Sorting.sortOn StaticDeploymentTarget.deploymentID targets.dedup := by
  have hkeys : (byIDOf targets).keys.Nodup := Dict.nodup_keys_collect _
  have hperm : (byIDOf targets).Perm (targets.dedup.map fun d => (d.deploymentID, d)) := by
    rw [List.perm_ext_iff_of_nodup hkeys.of_map]
    · rintro ⟨key, d⟩
      rw [Dict.mem_iff_get hkeys, get_byIDOf h, List.mem_map]
      constructor
      · rintro ⟨hd, rfl⟩
        exact ⟨d, List.mem_dedup.mpr hd, rfl⟩
      · rintro ⟨d', hd', heq⟩
        obtain ⟨rfl, rfl⟩ := Prod.mk.inj heq
        exact ⟨List.mem_dedup.mp hd', rfl⟩
    · exact targets.nodup_dedup.map fun d d' heq => (Prod.mk.inj heq).2
  rw [Sorting.sortOn_congr hperm hkeys, map_sortOn_graph]

end Evidence

section Score

variable {ed25519 : String → String → List UInt8 → Bool} {targets : List StaticDeploymentTarget}
  {indexes : List AuthenticatedIndex} {abstentions : List StaticIndexAbstention}
  {observations : List StaticProbeObservation} {policy : EpochPolicy} {record : StaticEpochScore}

lemma sealEpoch_eq_ok {v : Evidence} : sealEpoch policy v = .ok record ↔
    ∃ derived, deriveStaticEpoch v.targets v.indexed v.abstained v.observations policy.epochSeconds
        policy.epochIndex policy.minAttempts = .ok derived ∧
      (epochRecord policy v derived).Valid ∧ record = epochRecord policy v derived := by
  rw [sealEpoch, Except.bind_eq_ok]
  apply exists_congr
  intro derived
  rw [Except.bind_eq_ok]
  simp only [revalidate_eq_ok, exists_const]
  apply and_congr_right
  intro _
  apply and_congr_right
  intro _
  exact ⟨fun h => (Except.ok.inj h).symm, fun h => congrArg Except.ok h.symm⟩

/-- **The epoch is scored exactly on admissible arguments whose evidence can be sealed.**

**Proof sketch.** Each loop accepts what its rule says, and leaves a dictionary whose sorted values are the
sorted arguments. -/
theorem scoreStaticEpoch_eq_ok :
    scoreStaticEpoch ed25519 targets indexes abstentions observations policy = .ok record ↔
      Admissible ed25519 targets indexes abstentions observations policy ∧
        sealEpoch policy (evidenceOf targets indexes abstentions observations) = .ok record := by
  have hevidence : Coherent targets → (⟨(Sorting.sortOn Prod.fst (byIDOf targets)).map Prod.snd,
      (Sorting.sortOn Prod.fst (verifiedOf indexes)).map Prod.snd,
      (Sorting.sortOn Prod.fst (abstainedRows abstentions)).map Prod.snd,
      Sorting.sortOn observationOrder observations⟩ : Evidence) =
        evidenceOf targets indexes abstentions observations := by
    intro h
    rw [sorted_byIDOf h, verifiedOf, map_sortOn_graph, abstainedRows, map_sortOn_graph]
    rfl
  have hcomplete : (¬ ¬ ∀ key ∈ (byIDOf targets).keys, key ∈ (verifiedOf indexes).keys ∨
      key ∈ (abstainedRows abstentions).keys) ↔ ∀ d ∈ targets, d.deploymentID ∈ indexes.map indexID ∨
        d.deploymentID ∈ abstentions.map StaticIndexAbstention.deploymentID := by
    rw [not_not, keys_verifiedOf, keys_abstainedRows]
    simp only [mem_keys_byIDOf]
    exact ⟨fun h d hd => h _ ⟨d, hd, rfl⟩, fun h key ⟨d, hd, hkey⟩ => hkey ▸ h d hd⟩
  have hrevoked : (¬ (policy.releaseRevocation = none ∧
      ∃ entry ∈ abstainedRows abstentions, entry.2.code = .releaseRevoked)) ↔
        (policy.releaseRevocation = none → ∀ row ∈ abstentions, row.code ≠ .releaseRevoked) := by
    simp [abstainedRows]
  have htransport : (¬ (policy.publicTransportPolicy ≠ none ∧
      (policy.network, policy.netuid) ≠ (.test, 581))) ↔ (policy.publicTransportPolicy ≠ none →
        (policy.network, policy.netuid) = (.test, 581)) := by
    rw [not_and, not_not]
  have hcarried : (¬ ∃ o ∈ observations, ¬ policy.Carries o) ↔ ∀ o ∈ observations, policy.Carries o := by
    simp
  rw [scoreStaticEpoch]
  simp only [Except.bind_eq_ok, Except.reject_eq_ok, foldlM_indexTarget, exists_const]
  rw [not_not, not_or, not_lt, not_lt]
  constructor
  · rintro ⟨hpolicy, hfew, _, ⟨⟨hvalid, hcoherent⟩, rfl⟩, verified, hverify, h⟩
    obtain ⟨hverified, rfl⟩ := (foldlM_verifyIndex hcoherent).mp hverify
    obtain ⟨abstained, habstain, h⟩ := h
    obtain ⟨habstained, rfl⟩ := (foldlM_abstain hcoherent).mp habstain
    rw [hcomplete, hrevoked, htransport, hcarried] at h
    obtain ⟨hall, hrevocable, ⟨⟩, hobservations, htransport, hcarries, seen, hjudge, h⟩ := h
    rw [Except.forM_eq_ok] at hobservations
    obtain ⟨hjudged, -⟩ := (foldlM_judge hverified.2).mp hjudge
    refine ⟨⟨hpolicy, hfew, hvalid, hcoherent, hverified, habstained, hall, hrevocable, fun o ho => ?_,
      htransport, hcarries, hjudged⟩, ?_⟩
    · exact revalidate_eq_ok.mp (hobservations o ho)
    · rw [hevidence hcoherent] at h
      exact h
  · rintro ⟨h, hseal⟩
    refine ⟨h.policyValid, h.few, _, ⟨⟨h.targetsValid, h.coherent⟩, rfl⟩, _,
      (foldlM_verifyIndex h.coherent).mpr ⟨h.verified, rfl⟩, _,
      (foldlM_abstain h.coherent).mpr ⟨h.abstained, rfl⟩, ?_⟩
    rw [hcomplete, hrevoked, htransport, hcarried, hevidence h.coherent]
    refine ⟨h.complete, h.revocable, (), ?_, h.transport, h.carried, _,
      (foldlM_judge h.verified.2).mpr ⟨h.judged, rfl⟩, hseal⟩
    rw [Except.forM_eq_ok]
    intro o ho
    exact revalidate_eq_ok.mpr (h.observationsValid o ho)

end Score

end StaticScoring

end Misscomputer
