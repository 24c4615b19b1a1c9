import Mathlib.Data.Rat.Floor
import Misscomputer.Contract.Parsing
import Misscomputer.Lib.Apportion
import Misscomputer.Lib.Dict
import Misscomputer.Relay.Contracts

set_option relaxedAutoImplicit false
set_option autoImplicit false

/-!
# The weights of a score vector

A validator sets integer weights that add up to `65535`. The scores of a checkpoint are scaled to that sum: every miner
gets the floor of its exact share, and the units that are left over go to the largest remainders.

## Main definitions

* `Relay.normalizeScoreVector` — the weights, computed with a dictionary of floors and a sorted list of remainders.
* `Relay.FairShares` — what the weights of a vector have to be.

## Main results

* `Relay.normalizeScoreVector_eq` — the weights are the shares of an apportionment by largest remainders.
* `Relay.normalizeScoreVector_fair` — they are exact, fair, and do not depend on the order of the vector.

## References

* `src/misscomputer_subnet/score_checkpoint_relay.py` (`_normalize_score_vector`)
-/

namespace Misscomputer

namespace Relay

open Contract
open Except (reject)
open CheckpointScoreEntry (canonicalScorePpm key)

/-! ## The computation -/

/-- What the loop over the positive entries has computed. -/
structure Allocation where
  floors : Dict (ℤ × String) ℤ
  remainders : List (ℤ × ℤ × String)
  allocated : ℤ

/-- One round of the loop over the positive entries. -/
def allocate (total : ℤ) (a : Allocation) (item : CheckpointScoreEntry) : Allocation :=
  let numerator := item.canonicalScorePpm * weightU16Total
  let quotient := numerator / total
  let remainder := numerator % total
  { floors := a.floors.set (item.minerUid, item.minerHotkey) quotient
    remainders := a.remainders ++ [(remainder, item.minerUid, item.minerHotkey)]
    allocated := a.allocated + quotient }

/-- The order of the remainders: `(-item[0], item[1], item[2])`. -/
def remainderKey (item : ℤ × ℤ × String) : ℤ ×ₗ ℤ ×ₗ String := toLex (-item.1, toLex item.2)

/-- `xs[:n]`. -/
def sliceTo {α : Type} (xs : List α) (n : ℤ) : List α :=
  if 0 ≤ n then xs.take n.toNat else xs.take (xs.length - n.natAbs)

/-- `floors[(uid, hotkey)] += 1`. Every remainder has a floor. -/
def raiseFloor (floors : Dict (ℤ × String) ℤ) (item : ℤ × ℤ × String) : Dict (ℤ × String) ℤ :=
  floors.set item.2 ((floors.get item.2).getD 0 + 1)

/-- The weight of an entry, read off the floors. -/
def weightEntry (floors : Dict (ℤ × String) ℤ) (item : CheckpointScoreEntry) : RelayWeightEntry where
  minerUid := item.minerUid
  minerHotkey := item.minerHotkey
  sourceEligibilityStatus := item.eligibilityStatus
  sourceCanonicalScorePpm := item.canonicalScorePpm
  weightU16 := (floors.get (item.minerUid, item.minerHotkey)).getD 0

/-- The entries of a vector that have a score. -/
def positiveEntries (scoreVector : List CheckpointScoreEntry) : List CheckpointScoreEntry :=
  scoreVector.filter fun item => item.canonicalScorePpm > 0

/-- The floors after the units that are left over were handed out. -/
def raisedFloors (positive : List CheckpointScoreEntry) (total : ℤ) : Dict (ℤ × String) ℤ :=
  let a := positive.foldl (allocate total) { floors := [], remainders := [], allocated := 0 }
  let remaining := weightU16Total - a.allocated
  (sliceTo (Sorting.sortOn remainderKey a.remainders) remaining).foldl raiseFloor a.floors

/-- `_normalize_score_vector`. -/
def normalizeScoreVector (scoreVector : List CheckpointScoreEntry) : Except RelayError (List RelayWeightEntry) := do
  let positive := positiveEntries scoreVector
  let total := (positive.map canonicalScorePpm).sum
  reject (total ≤ 0) (.rejected .normalizationEmpty)
  let floors := raisedFloors positive total
  scoreVector.mapM fun item => do
    revalidate RelayWeightEntry.Valid (weightEntry floors item)
    return weightEntry floors item

/-! ## The loops -/

section Loops

variable {total : ℤ}

/-- What the loop over the positive entries computes. -/
lemma foldl_allocate (l : List CheckpointScoreEntry) (a : Allocation) : l.foldl (allocate total) a =
    { floors := (l.map fun item => ((item.minerUid, item.minerHotkey),
        item.canonicalScorePpm * weightU16Total / total)).foldl (fun d e => d.set e.1 e.2) a.floors
      remainders := a.remainders ++
        l.map fun item => (item.canonicalScorePpm * weightU16Total % total, item.minerUid, item.minerHotkey)
      allocated := a.allocated + (l.map fun item => item.canonicalScorePpm * weightU16Total / total).sum } := by
  induction l generalizing a with
  | nil => simp
  | cons item l ih =>
    rw [List.foldl_cons, ih]
    simp [allocate, add_assoc]

/-- Handing out units raises the floors of those who get one. -/
lemma getD_foldl_raiseFloor (l : List (ℤ × ℤ × String)) (hl : (l.map Prod.snd).Nodup) (d : Dict (ℤ × String) ℤ)
    (k : ℤ × String) : ((l.foldl raiseFloor d).get k).getD 0 =
      (d.get k).getD 0 + if k ∈ l.map Prod.snd then 1 else 0 := by
  induction l generalizing d with
  | nil => simp
  | cons item l ih =>
    rw [List.map_cons, List.nodup_cons] at hl
    rw [List.foldl_cons, ih hl.2, raiseFloor, Dict.get_set]
    simp only [List.map_cons, List.mem_cons]
    by_cases hk : k = item.2
    · subst hk
      simp [hl.1]
    · simp only [hk, if_false, false_or]

end Loops

/-! ## The weights are shares of an apportionment -/

/-- The key of an entry in the dictionary of floors. -/
def floorKey (item : CheckpointScoreEntry) : ℤ × String := (item.minerUid, item.minerHotkey)

/-- What an entry of the vector gets, as the share of an apportionment. -/
def fairWeight (positive : List CheckpointScoreEntry) (item : CheckpointScoreEntry) : ℤ :=
  if 0 < item.canonicalScorePpm then Apportion.share weightU16Total canonicalScorePpm key positive item else 0

section Shares

variable {positive : List CheckpointScoreEntry}

/-- The sorted remainders are those of the claimants in the order of the apportionment. -/
lemma sortOn_remainders : Sorting.sortOn remainderKey (positive.map fun item =>
      (item.canonicalScorePpm * weightU16Total % Apportion.total canonicalScorePpm positive, item.minerUid,
        item.minerHotkey)) =
    (Apportion.order weightU16Total canonicalScorePpm key positive).map fun item =>
      (item.canonicalScorePpm * weightU16Total % Apportion.total canonicalScorePpm positive, item.minerUid,
        item.minerHotkey) := by
  refine (List.map_insertionSort _ _ _ _ fun a _ b _ => ?_).symm
  exact Iff.rfl

lemma nodup_raised_floorKey (hkeys : (positive.map floorKey).Nodup) :
    ((Apportion.raised weightU16Total canonicalScorePpm key positive).map floorKey).Nodup := by
  have horder : ((Apportion.order weightU16Total canonicalScorePpm key positive).map floorKey).Nodup :=
    ((Sorting.sortOn_perm _ positive).map floorKey).nodup_iff.mpr hkeys
  exact horder.sublist ((List.take_sublist _ _).map floorKey)

/-- **The raised floors** are the quotients, and one unit more for the claimants who get one. -/
lemma getD_raisedFloors (hkeys : (positive.map floorKey).Nodup)
    (htotal : 0 < Apportion.total canonicalScorePpm positive) (k : ℤ × String) :
    ((raisedFloors positive (Apportion.total canonicalScorePpm positive)).get k).getD 0 =
      ((Dict.lasts (positive.map fun e =>
        (floorKey e, Apportion.quotient weightU16Total canonicalScorePpm positive e))).get k).getD 0 +
      if k ∈ (Apportion.raised weightU16Total canonicalScorePpm key positive).map floorKey then 1 else 0 := by
  have hnonneg := @Apportion.leftover_nonneg _ weightU16Total canonicalScorePpm positive htotal
  have hremaining : weightU16Total - (0 + (positive.map fun item => item.canonicalScorePpm * weightU16Total /
      Apportion.total canonicalScorePpm positive).sum) =
      Apportion.leftover weightU16Total canonicalScorePpm positive := by
    rw [zero_add]
    rfl
  have hmap : ∀ l : List CheckpointScoreEntry, (l.map fun item => (item.canonicalScorePpm * weightU16Total %
      Apportion.total canonicalScorePpm positive, item.minerUid, item.minerHotkey)).map Prod.snd =
      l.map floorKey := fun l => List.map_map ..
  simp only [raisedFloors, foldl_allocate, List.nil_append]
  rw [hremaining, sliceTo, if_pos hnonneg, sortOn_remainders, ← List.map_take, getD_foldl_raiseFloor]
  · rw [hmap]
    rfl
  · rw [hmap]
    exact nodup_raised_floorKey hkeys

/-- **The weight of an entry is its fair weight.**

**Proof sketch.** The floor of an entry with a score is its quotient, and its key is raised when it is. The key of an
entry without a score has no floor. -/
lemma weightU16_weightEntry {scoreVector : List CheckpointScoreEntry} (hkeys : (scoreVector.map floorKey).Nodup)
    (htotal : 0 < Apportion.total canonicalScorePpm (positiveEntries scoreVector)) {item : CheckpointScoreEntry}
    (hitem : item ∈ scoreVector) :
    (weightEntry (raisedFloors (positiveEntries scoreVector)
      (Apportion.total canonicalScorePpm (positiveEntries scoreVector))) item).weightU16 =
      fairWeight (positiveEntries scoreVector) item := by
  have hsub : (positiveEntries scoreVector).Sublist scoreVector := List.filter_sublist
  have hpositive : ((positiveEntries scoreVector).map floorKey).Nodup := hkeys.sublist (hsub.map floorKey)
  -- an entry is one of a part of the vector when its key is a key of that part
  have hmem : ∀ l : List CheckpointScoreEntry, (∀ e ∈ l, e ∈ positiveEntries scoreVector) →
      (floorKey item ∈ l.map floorKey ↔ item ∈ l) := by
    intro l hl
    constructor
    · intro h
      obtain ⟨e, he, heq⟩ := List.mem_map.mp h
      have := List.inj_on_of_nodup_map hkeys (hsub.subset (hl e he)) hitem heq
      rwa [← this]
    · exact List.mem_map_of_mem
  change ((raisedFloors _ _).get (floorKey item)).getD 0 = _
  rw [getD_raisedFloors hpositive htotal, fairWeight]
  simp only [hmem _ fun e => Apportion.mem_of_mem_raised]
  by_cases hscore : 0 < item.canonicalScorePpm
  · have hpos : item ∈ positiveEntries scoreVector := List.mem_filter.mpr ⟨hitem, decide_eq_true hscore⟩
    rw [if_pos hscore, Dict.get_lasts_map hpositive hpos, Option.getD_some, Apportion.share]
  · have hzero : item ∉ positiveEntries scoreVector := fun h => hscore (of_decide_eq_true (List.mem_filter.mp h).2)
    have hnone : (Dict.lasts ((positiveEntries scoreVector).map fun e => (floorKey e,
        Apportion.quotient weightU16Total canonicalScorePpm (positiveEntries scoreVector) e))).get (floorKey item) =
        none := by
      rw [Dict.get_eq_none_iff, Dict.lasts, Dict.mem_keys_collect]
      rintro ⟨e, he, heq⟩
      obtain ⟨e, hpos, rfl⟩ := List.mem_map.mp he
      exact hzero ((hmem _ fun e he => he).mp (heq ▸ List.mem_map_of_mem hpos))
    rw [if_neg hscore, hnone, if_neg fun h => hzero (Apportion.mem_of_mem_raised h)]
    rfl

end Shares

/-! ## Fairness -/

/-- The weight entry of an entry. -/
def weigh (positive : List CheckpointScoreEntry) (item : CheckpointScoreEntry) : RelayWeightEntry where
  minerUid := item.minerUid
  minerHotkey := item.minerHotkey
  sourceEligibilityStatus := item.eligibilityStatus
  sourceCanonicalScorePpm := item.canonicalScorePpm
  weightU16 := fairWeight positive item

/-- What the weights of a score vector have to be. -/
structure FairShares (scoreVector : List CheckpointScoreEntry)
    (weigh : CheckpointScoreEntry → RelayWeightEntry) : Prop where
  source : ∀ e, (weigh e).minerUid = e.minerUid ∧ (weigh e).minerHotkey = e.minerHotkey ∧
    (weigh e).sourceEligibilityStatus = e.eligibilityStatus ∧ (weigh e).sourceCanonicalScorePpm = e.canonicalScorePpm
  total : (scoreVector.map fun e => (weigh e).weightU16).sum = weightU16Total
  rounded : ∀ e ∈ scoreVector, 0 < e.canonicalScorePpm →
    (weigh e).weightU16 =
      ⌊(e.canonicalScorePpm * weightU16Total : ℚ) / (scoreVector.map canonicalScorePpm).sum⌋ ∨
    (weigh e).weightU16 =
      ⌈(e.canonicalScorePpm * weightU16Total : ℚ) / (scoreVector.map canonicalScorePpm).sum⌉
  zero : ∀ e ∈ scoreVector, e.canonicalScorePpm = 0 → (weigh e).weightU16 = 0
  monotone : ∀ a ∈ scoreVector, ∀ b ∈ scoreVector, a.canonicalScorePpm < b.canonicalScorePpm →
    (weigh a).weightU16 ≤ (weigh b).weightU16
  equal : ∀ a ∈ scoreVector, ∀ b ∈ scoreVector, a.canonicalScorePpm = b.canonicalScorePpm → a.key < b.key →
    (weigh b).weightU16 ≤ (weigh a).weightU16 ∧ (weigh a).weightU16 ≤ (weigh b).weightU16 + 1

section Fairness

variable {scoreVector : List CheckpointScoreEntry}

/-- The entries without a score do not count. -/
lemma total_positiveEntries (hvalid : ∀ e ∈ scoreVector, e.Valid) :
    Apportion.total canonicalScorePpm (positiveEntries scoreVector) = (scoreVector.map canonicalScorePpm).sum := by
  induction scoreVector with
  | nil => rfl
  | cons e l ih =>
    rw [List.forall_mem_cons] at hvalid
    have ih := ih hvalid.2
    obtain ⟨-, -, ⟨hscore, -⟩, -⟩ := hvalid.1
    rw [Apportion.total, positiveEntries] at ih
    rw [Apportion.total, positiveEntries, List.filter_cons, List.map_cons, List.sum_cons]
    by_cases hpos : 0 < e.canonicalScorePpm
    · rw [if_pos (decide_eq_true hpos), List.map_cons, List.sum_cons, ih]
    · rw [if_neg (by simpa using hpos), ih]
      omega

/-- Some score is positive when the total is. -/
lemma total_pos (hpos : ∃ e ∈ scoreVector, 0 < e.canonicalScorePpm) :
    0 < Apportion.total canonicalScorePpm (positiveEntries scoreVector) := by
  obtain ⟨e, he, hscore⟩ := hpos
  apply List.sum_pos
  · intro n hn
    obtain ⟨a, ha, rfl⟩ := List.mem_map.mp hn
    exact of_decide_eq_true (List.mem_filter.mp ha).2
  · have hmem : e ∈ positiveEntries scoreVector := List.mem_filter.mpr ⟨he, decide_eq_true hscore⟩
    simpa using List.ne_nil_of_mem hmem

/-- The weights of the vector are the shares of the entries with a score. -/
lemma sum_fairWeight : (scoreVector.map (fairWeight (positiveEntries scoreVector))).sum =
    ((positiveEntries scoreVector).map (Apportion.share weightU16Total canonicalScorePpm key
      (positiveEntries scoreVector))).sum := by
  have hsplit : ∀ (p l : List CheckpointScoreEntry), (l.map (fairWeight p)).sum =
      ((positiveEntries l).map (Apportion.share weightU16Total canonicalScorePpm key p)).sum := by
    intro p l
    induction l with
    | nil => rfl
    | cons e l ih =>
      rw [positiveEntries] at ih
      rw [positiveEntries, List.filter_cons, List.map_cons, List.sum_cons, ih, fairWeight]
      by_cases hpos : 0 < e.canonicalScorePpm
      · rw [if_pos hpos, if_pos (decide_eq_true hpos), List.map_cons, List.sum_cons]
      · rw [if_neg hpos, if_neg (by simpa using hpos), zero_add]
  exact hsplit _ _

lemma share_nonneg (positive : List CheckpointScoreEntry) {e : CheckpointScoreEntry}
    (htotal : 0 < Apportion.total canonicalScorePpm positive) (hscore : 0 ≤ e.canonicalScorePpm) :
    0 ≤ Apportion.share weightU16Total canonicalScorePpm key positive e := by
  have hquotient : 0 ≤ Apportion.quotient weightU16Total canonicalScorePpm positive e :=
    Int.ediv_nonneg (mul_nonneg hscore (by decide)) htotal.le
  exact hquotient.trans (Apportion.quotient_le_share e)

lemma fairWeight_nonneg (positive : List CheckpointScoreEntry) (e : CheckpointScoreEntry)
    (htotal : 0 < Apportion.total canonicalScorePpm positive) : 0 ≤ fairWeight positive e := by
  rw [fairWeight]
  split
  · rename_i hscore
    exact share_nonneg positive htotal hscore.le
  · exact le_rfl

/-- The entries with a score are distinct. -/
lemma nodup_positiveEntries (hkeys : (scoreVector.map floorKey).Nodup) : (positiveEntries scoreVector).Nodup :=
  (hkeys.of_map).filter _

/-- **The weights are fair.** -/
lemma fairShares_weigh (hvalid : ∀ e ∈ scoreVector, e.Valid) (hkeys : (scoreVector.map floorKey).Nodup)
    (hpos : ∃ e ∈ scoreVector, 0 < e.canonicalScorePpm) :
    FairShares scoreVector (weigh (positiveEntries scoreVector)) := by
  have htotal := total_pos hpos
  have hnodup := nodup_positiveEntries hkeys
  have hmem : ∀ e ∈ scoreVector, 0 < e.canonicalScorePpm → e ∈ positiveEntries scoreVector :=
    fun e he hscore => List.mem_filter.mpr ⟨he, decide_eq_true hscore⟩
  refine ⟨fun e => ⟨rfl, rfl, rfl, rfl⟩, ?_, ?_, ?_, ?_, ?_⟩
  · exact sum_fairWeight.trans (Apportion.sum_share hnodup htotal)
  · intro e he hscore
    obtain ⟨t, ht⟩ := Int.eq_ofNat_of_zero_le htotal.le
    have hshare := @Apportion.share_floor_or_ceil _ _ _ weightU16Total canonicalScorePpm key _ _ hnodup htotal e
    have hcast : ((scoreVector.map canonicalScorePpm).sum : ℚ) = (t : ℚ) := by
      rw [← total_positiveEntries hvalid, ht, Int.cast_natCast]
    have hweight : (weigh (positiveEntries scoreVector) e).weightU16 =
        Apportion.share weightU16Total canonicalScorePpm key (positiveEntries scoreVector) e := if_pos hscore
    rw [hcast, ← Int.cast_mul, Rat.floor_intCast_div_natCast, Rat.ceil_intCast_div_natCast, hweight, ← ht]
    exact hshare
  · intro e _ hzero
    exact if_neg (by omega)
  · intro a ha b hb hlt
    change fairWeight _ a ≤ fairWeight _ b
    have hb_pos : 0 < b.canonicalScorePpm := by
      obtain ⟨-, -, ⟨hscore, -⟩, -⟩ := hvalid a ha
      omega
    rw [fairWeight]
    split
    · rw [fairWeight, if_pos hb_pos]
      exact Apportion.share_le_of_lt (by decide) htotal (hmem b hb hb_pos) hlt
    · exact fairWeight_nonneg _ b htotal
  · intro a ha b _ heq hkey
    change fairWeight _ b ≤ fairWeight _ a ∧ fairWeight _ a ≤ fairWeight _ b + 1
    by_cases hscore : 0 < a.canonicalScorePpm
    · rw [fairWeight, if_pos (heq ▸ hscore), fairWeight, if_pos hscore]
      exact Apportion.share_of_eq (hmem a ha hscore) heq hkey
    · rw [fairWeight, if_neg (heq ▸ hscore), fairWeight, if_neg hscore]
      omega

/-- The weight entries are values of their contract. -/
lemma weigh_valid (hvalid : ∀ e ∈ scoreVector, e.Valid) (hkeys : (scoreVector.map floorKey).Nodup)
    (hpos : ∃ e ∈ scoreVector, 0 < e.canonicalScorePpm) {e : CheckpointScoreEntry} (he : e ∈ scoreVector) :
    (weigh (positiveEntries scoreVector) e).Valid := by
  have htotal := total_pos hpos
  have hfair := fairShares_weigh hvalid hkeys hpos
  obtain ⟨huid, hhotkey, hscore, -, hineligible⟩ := hvalid e he
  refine ⟨huid, hhotkey, hscore, ⟨fairWeight_nonneg _ e htotal, ?_⟩, ?_⟩
  · rw [← hfair.total]
    refine List.single_le_sum (fun n hn => ?_) _ (List.mem_map_of_mem he)
    obtain ⟨a, -, rfl⟩ := List.mem_map.mp hn
    exact fairWeight_nonneg _ a htotal
  · rintro (hstatus | hzero)
    · exact hfair.zero e he (hineligible hstatus)
    · exact hfair.zero e he hzero

/-- **The weights are the shares of an apportionment.** -/
theorem normalizeScoreVector_eq (hvalid : ∀ e ∈ scoreVector, e.Valid) (hkeys : (scoreVector.map floorKey).Nodup)
    (hpos : ∃ e ∈ scoreVector, 0 < e.canonicalScorePpm) :
    normalizeScoreVector scoreVector = .ok (scoreVector.map (weigh (positiveEntries scoreVector))) := by
  have htotal := total_pos hpos
  have hentry : ∀ e ∈ scoreVector, weightEntry (raisedFloors (positiveEntries scoreVector)
      (Apportion.total canonicalScorePpm (positiveEntries scoreVector))) e =
      weigh (positiveEntries scoreVector) e := by
    intro e he
    have hweight := weightU16_weightEntry hkeys htotal he
    rw [weigh, ← hweight]
    rfl
  have hweights : (scoreVector.mapM fun item => do
      revalidate RelayWeightEntry.Valid (weightEntry (raisedFloors (positiveEntries scoreVector)
        (Apportion.total canonicalScorePpm (positiveEntries scoreVector))) item)
      return weightEntry (raisedFloors (positiveEntries scoreVector)
        (Apportion.total canonicalScorePpm (positiveEntries scoreVector))) item) =
      Except.ok (scoreVector.map (weigh (positiveEntries scoreVector))) := by
    rw [mapM_eq_ok_iff, List.forall₂_map_right_iff, List.forall₂_same]
    intro e he
    rw [hentry e he, Except.bind_eq_ok]
    exact ⟨(), revalidate_eq_ok.mpr (weigh_valid hvalid hkeys hpos he), rfl⟩
  rw [normalizeScoreVector, Except.bind_eq_ok]
  exact ⟨(), Except.reject_eq_ok.mpr (not_le.mpr htotal), hweights⟩

/-- Fair weights do not depend on the order of the vector. -/
lemma weigh_perm {scoreVector' : List CheckpointScoreEntry} (hperm : scoreVector.Perm scoreVector')
    (hkeys : (scoreVector.map floorKey).Nodup) (e : CheckpointScoreEntry) :
    weigh (positiveEntries scoreVector) e = weigh (positiveEntries scoreVector') e := by
  have hpositive : (positiveEntries scoreVector).Perm (positiveEntries scoreVector') := hperm.filter _
  have hkeys' : ((positiveEntries scoreVector).map key).Nodup :=
    (hkeys.sublist ((List.filter_sublist).map floorKey) : ((positiveEntries scoreVector).map floorKey).Nodup)
  rw [weigh, weigh, fairWeight, fairWeight, Apportion.share_perm hpositive hkeys']

end Fairness

/-- **Normalisation is exact and fair.** A vector of entries with distinct keys, one of which has a score, has fair
weights: each entry has one, which is the same in whatever order the entries come. -/
theorem normalizeScoreVector_fair (scoreVector : List CheckpointScoreEntry) (hvalid : ∀ e ∈ scoreVector, e.Valid)
    (hkeys : (scoreVector.map key).Nodup) (hpos : ∃ e ∈ scoreVector, 0 < e.canonicalScorePpm) :
    ∃ weigh : CheckpointScoreEntry → RelayWeightEntry, FairShares scoreVector weigh ∧
      ∀ scoreVector', scoreVector'.Perm scoreVector →
        normalizeScoreVector scoreVector' = .ok (scoreVector'.map weigh) := by
  have hkeys' : (scoreVector.map floorKey).Nodup := hkeys
  refine ⟨weigh (positiveEntries scoreVector), fairShares_weigh hvalid hkeys' hpos, fun scoreVector' hperm => ?_⟩
  obtain ⟨e, he, hscore⟩ := hpos
  rw [normalizeScoreVector_eq (fun e he => hvalid e (hperm.subset he)) ((hperm.map _).nodup_iff.mpr hkeys')
    ⟨e, hperm.mem_iff.mpr he, hscore⟩]
  congr 1
  apply List.map_congr_left
  intro e _
  exact (weigh_perm hperm.symm hkeys' e).symm

namespace Sample

/-- An entry of the sample. -/
def entry (minerUid : ℤ) (minerHotkey : String) (eligibilityStatus : Eligibility) (canonicalScorePpm : ℤ) :
    CheckpointScoreEntry where
  minerUid := minerUid
  minerHotkey := minerHotkey
  eligibilityStatus := eligibilityStatus
  canonicalScorePpm := canonicalScorePpm
  recordDigestSha256 := String.ofList (List.replicate 64 'd')

/-- Two miners with a score, and one that is not eligible. -/
def vector : List CheckpointScoreEntry :=
  [entry 3 "alice" .eligible 1000000, entry 5 "bob" .eligible 500000, entry 8 "carol" .ineligible 0]

lemma vector_valid : ∀ e ∈ vector, e.Valid := by
  have hdigest := hex64_replicate (show Protocol.hexDigit 'd' = true by decide)
  simp only [vector, List.forall_mem_cons]
  exact ⟨⟨by decide, by decide, by decide, hdigest, by decide⟩, ⟨by decide, by decide, by decide, hdigest, by decide⟩,
    ⟨by decide, by decide, by decide, hdigest, by decide⟩, by simp⟩

end Sample

/-- The weights of the sample, in any order of its entries. -/
theorem normalizeScoreVector_fair_sample :
    ∃ weigh : CheckpointScoreEntry → RelayWeightEntry, FairShares Sample.vector weigh ∧
      ∀ scoreVector', scoreVector'.Perm Sample.vector →
        normalizeScoreVector scoreVector' = .ok (scoreVector'.map weigh) :=
  normalizeScoreVector_fair Sample.vector Sample.vector_valid (by decide)
    ⟨Sample.entry 3 "alice" .eligible 1000000, List.mem_cons_self, by decide⟩

end Relay

end Misscomputer
