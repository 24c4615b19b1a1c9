import Mathlib.Algebra.Order.BigOperators.Group.List
import Mathlib.Algebra.Order.Field.Rat
import Mathlib.Algebra.Order.Ring.Int
import Mathlib.Data.Prod.Lex
import Mathlib.Data.Rat.Lemmas
import Mathlib.Data.String.Basic
import Misscomputer.Lib.Dict
import Misscomputer.Lib.Except

set_option relaxedAutoImplicit false
set_option autoImplicit false

/-!
# The mean availability of a window

Both window aggregators run the same loop over the endpoints of their epochs: UIDs and hotkeys have to be
paired one to one, and the availabilities of the eligible endpoints are added up by miner.

## Main definitions

* `Scoring.EndpointEpoch` — what the loop reads of an endpoint's row.
* `Scoring.windowMeans` — the loop, and the means in the order of the miners.
* `Scoring.meanOf` — the mean of a miner's availabilities.
* `Scoring.ExactMeans` — what a list of means says about the samples it is taken over.

## Main results

* `Scoring.windowMeans_eq_ok` — what the loop accepts and returns.
* `Scoring.windowMeans_eq_error` — it fails exactly when UIDs and hotkeys are not paired one to one.
* `Scoring.minerMean_fraction` — the mean is the reduced fraction, between zero and one.
* `Scoring.exactMeans_windowMiners` — the loop returns exact means.

## References

* `src/misscomputer_subnet/organic_scoring.py` (`aggregate_organic_window`)
* `src/misscomputer_subnet/static_scoring.py` (`aggregate_static_window`)
-/

namespace Misscomputer

namespace Scoring

open Except (reject)

/-- What the loop reads of an endpoint's row. -/
structure EndpointEpoch where
  minerUID : ℤ
  minerHotkey : String
  eligible : Bool
  availabilityNumerator : Option ℕ
  availabilityDenominator : Option ℕ

/-- The UID and the hotkey of a miner. -/
abbrev MinerKey : Type := ℤ ×ₗ String

/-- The miner of an endpoint. -/
def EndpointEpoch.miner (row : EndpointEpoch) : ℤ × String := (row.minerUID, row.minerHotkey)

/-- The key a miner's availabilities are added up under. -/
def EndpointEpoch.key (row : EndpointEpoch) : MinerKey := toLex row.miner

/-- The availability of an endpoint, when the row has one. -/
def EndpointEpoch.ratio (row : EndpointEpoch) : ℚ :=
  (row.availabilityNumerator.getD 0 : ℚ) / (row.availabilityDenominator.getD 0 : ℚ)

/-- The row has an availability. -/
def EndpointEpoch.Measured (row : EndpointEpoch) : Prop :=
  row.availabilityNumerator ≠ none ∧ row.availabilityDenominator ≠ none ∧
    row.availabilityDenominator ≠ some 0

instance (row : EndpointEpoch) : Decidable row.Measured := inferInstanceAs (Decidable (_ ∧ _ ∧ _))

/-- Why the loop rejects a window. -/
inductive WindowRejection
  | identityConflict | outcomeInconsistent
deriving DecidableEq, Repr

/-- The dictionaries of the loop. -/
structure Totals where
  sums : Dict MinerKey ℚ
  counts : Dict MinerKey ℕ
  identities : Dict ℤ String
  hotkeys : Dict String ℤ

/-- One round of the loop. -/
def Totals.add (s : Totals) (row : EndpointEpoch) : Except WindowRejection Totals := do
  reject ((s.identities.get row.minerUID).getD row.minerHotkey ≠ row.minerHotkey ∨
    (s.hotkeys.get row.minerHotkey).getD row.minerUID ≠ row.minerUID) .identityConflict
  let s := { s with
    identities := s.identities.setdefault row.minerUID row.minerHotkey
    hotkeys := s.hotkeys.setdefault row.minerHotkey row.minerUID }
  if row.eligible then
    reject (¬ row.Measured) .outcomeInconsistent
    return { s with
      sums := s.sums.set row.key ((s.sums.get row.key).getD 0 + row.ratio)
      counts := s.counts.set row.key ((s.counts.get row.key).getD 0 + 1) }
  else return s

/-- The mean of a miner. -/
structure MinerMean where
  minerUID : ℤ
  minerHotkey : String
  eligibleEndpointEpochs : ℕ
  availabilityNumerator : ℕ
  availabilityDenominator : ℕ
deriving DecidableEq

/-- The miner of a mean. -/
def MinerMean.key (m : MinerMean) : MinerKey := toLex (m.minerUID, m.minerHotkey)

/-- A reduced fraction between zero and one. -/
def Reduced (numerator denominator : ℕ) : Prop :=
  (mkRat numerator denominator).num = numerator ∧ (mkRat numerator denominator).den = denominator ∧
    mkRat numerator denominator ≤ 1

instance (numerator denominator : ℕ) : Decidable (Reduced numerator denominator) :=
  inferInstanceAs (Decidable (_ ∧ _ ∧ _))

/-- The mean as it is sealed. -/
def sealMean (key : MinerKey) (epochs : ℕ) (mean : ℚ) : MinerMean where
  minerUID := (ofLex key).1
  minerHotkey := (ofLex key).2
  eligibleEndpointEpochs := epochs
  availabilityNumerator := mean.num.toNat
  availabilityDenominator := mean.den

/-- The loop, and the means in the order of the miners. -/
def windowMeans (rows : List EndpointEpoch) : Except WindowRejection (List MinerMean) := do
  let s ← rows.foldlM Totals.add ⟨[], [], [], []⟩
  return (Sorting.sortOn Prod.fst s.sums).map fun entry =>
    sealMean entry.1 ((s.counts.get entry.1).getD 0) (entry.2 / ((s.counts.get entry.1).getD 0 : ℕ))

/-! ## What the loop accepts -/

/-- The eligible rows. -/
def eligibleRows (rows : List EndpointEpoch) : List EndpointEpoch := rows.filter EndpointEpoch.eligible

/-- The eligible rows of a miner. -/
def eligibleOf (rows : List EndpointEpoch) (key : MinerKey) : List EndpointEpoch :=
  (eligibleRows rows).filter fun row => row.key = key

/-- The mean of a miner's availabilities. -/
def meanOf (rows : List EndpointEpoch) (key : MinerKey) : ℚ :=
  ((eligibleOf rows key).map EndpointEpoch.ratio).sum / (eligibleOf rows key).length

/-- The mean of a miner, as it is sealed. -/
def minerMean (rows : List EndpointEpoch) (key : MinerKey) : MinerMean :=
  sealMean key (eligibleOf rows key).length (meanOf rows key)

/-- The means the loop returns. -/
def windowMiners (rows : List EndpointEpoch) : List MinerMean :=
  (Sorting.sortedSet ((eligibleRows rows).map EndpointEpoch.key)).map (minerMean rows)

/-- The dictionaries after the loop. -/
def totals (rows : List EndpointEpoch) : Totals where
  sums := Dict.collect EndpointEpoch.key (fun sum row => sum.getD 0 + row.ratio) (eligibleRows rows)
  counts := Dict.collect EndpointEpoch.key (fun n _ => n.getD 0 + 1) (eligibleRows rows)
  identities := Dict.firsts (rows.map EndpointEpoch.miner)
  hotkeys := Dict.firsts ((rows.map EndpointEpoch.miner).map Prod.swap)

/-- The rows the loop accepts. -/
def Consistent (rows : List EndpointEpoch) : Prop :=
  Dict.OneToOne (rows.map EndpointEpoch.miner) ∧ ∀ row ∈ rows, row.eligible = true → row.Measured

variable {rows : List EndpointEpoch} {row : EndpointEpoch}

lemma consistent_concat : Consistent (rows ++ [row]) ↔ Consistent rows ∧
    Dict.OneToOne (rows.map EndpointEpoch.miner ++ [row.miner]) ∧ (row.eligible = true → row.Measured) := by
  rw [Consistent, Consistent, List.map_append, List.map_singleton, List.forall_mem_append,
    List.forall_mem_singleton]
  constructor
  · rintro ⟨hpair, hrows, hrow⟩
    exact ⟨⟨(Dict.oneToOne_concat.mp hpair).1, hrows⟩, hpair, hrow⟩
  · rintro ⟨⟨-, hrows⟩, hpair, hrow⟩
    exact ⟨hpair, hrows, hrow⟩

lemma eligibleRows_concat : eligibleRows (rows ++ [row]) =
    if row.eligible = true then eligibleRows rows ++ [row] else eligibleRows rows := by
  rw [eligibleRows, List.filter_append]
  by_cases h : row.eligible = true <;> simp [h, eligibleRows]

/-- **One round of the loop.** -/
lemma add_eq_ok (h : Consistent rows) {s : Totals} :
    (totals rows).add row = .ok s ↔ Consistent (rows ++ [row]) ∧ s = totals (rows ++ [row]) := by
  have hpair := Dict.agrees_iff h.1 row.miner
  have hidentities : (totals (rows ++ [row])).identities =
      (totals rows).identities.setdefault row.minerUID row.minerHotkey := by
    rw [totals, List.map_append]
    exact Dict.firsts_concat _ row.minerUID row.minerHotkey
  have hhotkeys : (totals (rows ++ [row])).hotkeys =
      (totals rows).hotkeys.setdefault row.minerHotkey row.minerUID := by
    rw [totals, List.map_append, List.map_append]
    exact Dict.firsts_concat _ row.minerHotkey row.minerUID
  rw [consistent_concat, Totals.add, ← hpair]
  simp only [Except.bind_eq_ok, Except.reject_eq_ok, exists_const]
  rw [not_or, not_not, not_not]
  by_cases he : row.eligible = true
  · have hsums : (totals (rows ++ [row])).sums =
        (totals rows).sums.set row.key (((totals rows).sums.get row.key).getD 0 + row.ratio) := by
      rw [totals]
      dsimp only
      rw [eligibleRows_concat, if_pos he]
      exact Dict.collect_concat _ _
    have hcounts : (totals (rows ++ [row])).counts =
        (totals rows).counts.set row.key (((totals rows).counts.get row.key).getD 0 + 1) := by
      rw [totals]
      dsimp only
      rw [eligibleRows_concat, if_pos he]
      exact Dict.collect_concat _ _
    rw [if_pos he]
    simp only [Except.bind_eq_ok, Except.reject_eq_ok, exists_const]
    rw [not_not, ← hsums, ← hcounts, ← hidentities, ← hhotkeys]
    constructor
    · rintro ⟨hagree, hmeasured, hs⟩
      exact ⟨⟨h, hagree, fun _ => hmeasured⟩, (Except.ok.inj hs).symm⟩
    · rintro ⟨⟨-, hagree, hmeasured⟩, rfl⟩
      exact ⟨hagree, hmeasured he, rfl⟩
  · have hsame : totals (rows ++ [row]) =
        { totals rows with
          identities := (totals rows).identities.setdefault row.minerUID row.minerHotkey
          hotkeys := (totals rows).hotkeys.setdefault row.minerHotkey row.minerUID } := by
      rw [← hidentities, ← hhotkeys]
      simp only [totals]
      rw [eligibleRows_concat, if_neg he]
    rw [if_neg he, ← hsame]
    constructor
    · rintro ⟨hagree, hs⟩
      exact ⟨⟨h, hagree, fun helig => absurd helig he⟩, (Except.ok.inj hs).symm⟩
    · rintro ⟨⟨-, hagree, -⟩, rfl⟩
      exact ⟨hagree, rfl⟩

lemma foldlM_add {s : Totals} :
    rows.foldlM Totals.add ⟨[], [], [], []⟩ = .ok s ↔ Consistent rows ∧ s = totals rows := by
  have hstart : totals [] = ⟨[], [], [], []⟩ := rfl
  rw [← hstart]
  apply Except.foldlM_eq_ok
  · exact ⟨Dict.oneToOne_nil, by simp⟩
  · intro l a h
    exact (consistent_concat.mp h).1
  · intro l a s h
    exact add_eq_ok h

/-- What the loop has counted and added up for a miner. -/
lemma totals_get (rows : List EndpointEpoch) (key : MinerKey) :
    ((totals rows).counts.get key).getD 0 = (eligibleOf rows key).length ∧
      ((totals rows).sums.get key).getD 0 = ((eligibleOf rows key).map EndpointEpoch.ratio).sum := by
  constructor
  · rw [totals, Dict.getD_collect_count, List.countP_eq_length_filter]
    rfl
  · rw [totals, Dict.getD_collect (f := fun sum row => sum + EndpointEpoch.ratio row), eligibleOf,
      List.sum_eq_foldl, List.foldl_map]

/-- **What the loop accepts and returns.** -/
theorem windowMeans_eq_ok {means : List MinerMean} :
    windowMeans rows = .ok means ↔ Consistent rows ∧ means = windowMiners rows := by
  have hmeans : ((Sorting.sortOn Prod.fst (totals rows).sums).map fun entry =>
      sealMean entry.1 (((totals rows).counts.get entry.1).getD 0)
        (entry.2 / (((totals rows).counts.get entry.1).getD 0 : ℕ))) = windowMiners rows := by
    apply Dict.map_sortOn_collect
    rintro ⟨key, sum⟩ hentry
    have hnodup : (totals rows).sums.keys.Nodup := Dict.nodup_keys_collect _
    have hsum : (totals rows).sums.get key = some sum := (Dict.mem_iff_get hnodup).mp hentry
    obtain ⟨hcount, hadded⟩ := totals_get rows key
    rw [hsum, Option.getD_some] at hadded
    rw [hcount, hadded]
    rfl
  rw [windowMeans, Except.bind_eq_ok]
  simp only [foldlM_add]
  constructor
  · rintro ⟨s, ⟨hs, rfl⟩, h⟩
    exact ⟨hs, (Except.ok.inj h).symm.trans hmeans⟩
  · rintro ⟨hs, rfl⟩
    exact ⟨_, ⟨hs, rfl⟩, congrArg Except.ok hmeans⟩

/-- **The loop fails exactly when UIDs and hotkeys are not paired one to one**, if the eligible rows have
an availability. -/
theorem windowMeans_eq_error (hmeasured : ∀ row ∈ rows, row.eligible = true → row.Measured)
    {e : WindowRejection} : windowMeans rows = .error e ↔
      e = .identityConflict ∧ ¬ Dict.OneToOne (rows.map EndpointEpoch.miner) := by
  have hconsistent : Consistent rows ↔ Dict.OneToOne (rows.map EndpointEpoch.miner) :=
    ⟨And.left, fun h => ⟨h, hmeasured⟩⟩
  have hcode : ∀ e, windowMeans rows = .error e → e = .identityConflict := by
    intro e h
    rw [windowMeans] at h
    cases hloop : rows.foldlM Totals.add ⟨[], [], [], []⟩ with
    | ok s =>
      rw [hloop] at h
      cases h
    | error e' =>
      rw [hloop] at h
      obtain rfl := Except.error.inj h
      obtain ⟨row, hrow, s, hround⟩ := Except.exists_of_foldlM_eq_error hloop
      rw [Totals.add] at hround
      unfold reject at hround
      by_cases hagree : (s.identities.get row.minerUID).getD row.minerHotkey ≠ row.minerHotkey ∨
          (s.hotkeys.get row.minerHotkey).getD row.minerUID ≠ row.minerUID
      · rw [if_pos hagree] at hround
        exact (Except.error.inj hround).symm
      · rw [if_neg hagree] at hround
        by_cases he : row.eligible = true
        · have hneg : ¬ ¬ row.Measured := not_not.mpr (hmeasured row hrow he)
          simp only [bind, Except.bind, he, if_true, if_neg hneg] at hround
          cases hround
        · simp only [bind, Except.bind, if_neg he] at hround
          cases hround
  constructor
  · intro h
    refine ⟨hcode e h, fun hpair => ?_⟩
    have hok := windowMeans_eq_ok.mpr ⟨hconsistent.mpr hpair, rfl⟩
    rw [h] at hok
    cases hok
  · rintro ⟨rfl, hpair⟩
    cases hrun : windowMeans rows with
    | ok means => exact absurd (hconsistent.mp (windowMeans_eq_ok.mp hrun).1) hpair
    | error e => rw [hcode e hrun]

/-! ## The mean -/

/-- A mean of availabilities between zero and one lies between zero and one. -/
lemma meanOf_bounds {key : MinerKey} (h : ∀ row ∈ eligibleOf rows key, 0 ≤ row.ratio ∧ row.ratio ≤ 1) :
    0 ≤ meanOf rows key ∧ meanOf rows key ≤ 1 := by
  have hlow : 0 ≤ ((eligibleOf rows key).map EndpointEpoch.ratio).sum := by
    apply List.sum_nonneg
    intro q hq
    obtain ⟨row, hrow, rfl⟩ := List.mem_map.mp hq
    exact (h row hrow).1
  have hhigh : ((eligibleOf rows key).map EndpointEpoch.ratio).sum ≤ (eligibleOf rows key).length := by
    have hsum := List.sum_le_card_nsmul ((eligibleOf rows key).map EndpointEpoch.ratio) 1 (by
      intro q hq
      obtain ⟨row, hrow, rfl⟩ := List.mem_map.mp hq
      exact (h row hrow).2)
    rwa [List.length_map, nsmul_eq_mul, mul_one] at hsum
  refine ⟨div_nonneg hlow (Nat.cast_nonneg _), ?_⟩
  exact div_le_one_of_le₀ hhigh (Nat.cast_nonneg _)

/-- The numerator and the denominator of a nonnegative fraction. -/
lemma toNat_num_div_den {q : ℚ} (h : 0 ≤ q) : (q.num.toNat : ℚ) / (q.den : ℚ) = q := by
  have hcast : (q.num.toNat : ℤ) = q.num := Int.toNat_of_nonneg (Rat.num_nonneg.mpr h)
  have hcast' : ((q.num.toNat : ℕ) : ℚ) = (q.num : ℚ) := by exact_mod_cast hcast
  rw [hcast', Rat.num_div_den]

/-- A fraction between zero and one, as it is sealed. -/
lemma sealMean_fraction {key : MinerKey} {epochs : ℕ} {mean : ℚ} (h : 0 ≤ mean ∧ mean ≤ 1) :
    ((sealMean key epochs mean).availabilityNumerator : ℚ) /
        ((sealMean key epochs mean).availabilityDenominator : ℚ) = mean ∧
      (sealMean key epochs mean).availabilityNumerator.Coprime
        (sealMean key epochs mean).availabilityDenominator ∧
      (sealMean key epochs mean).availabilityNumerator ≤
        (sealMean key epochs mean).availabilityDenominator ∧
      0 < (sealMean key epochs mean).availabilityDenominator := by
  have hnum : 0 ≤ mean.num := Rat.num_nonneg.mpr h.1
  refine ⟨toNat_num_div_den h.1, ?_, ?_, mean.den_pos⟩
  · have hreduced := mean.reduced
    have habs : mean.num.natAbs = mean.num.toNat := by omega
    rwa [habs] at hreduced
  · have hle : mean.num ≤ mean.den := by
      have := Rat.num_le_denom_iff.mpr h.2
      exact_mod_cast this
    change mean.num.toNat ≤ mean.den
    omega

/-- A ratio of counts, as the rows of the endpoints carry it. -/
lemma ratio_of_counts {n d : ℕ} (hle : n ≤ d) :
    ((mkRat n d).num.toNat : ℚ) / ((mkRat n d).den : ℚ) = (n : ℚ) / (d : ℚ) ∧
      0 ≤ (n : ℚ) / (d : ℚ) ∧ (n : ℚ) / (d : ℚ) ≤ 1 := by
  have hlow : 0 ≤ (n : ℚ) / (d : ℚ) := div_nonneg (Nat.cast_nonneg n) (Nat.cast_nonneg d)
  have hhigh : (n : ℚ) / (d : ℚ) ≤ 1 := by
    apply div_le_one_of_le₀ _ (Nat.cast_nonneg d)
    exact_mod_cast hle
  have hrat : mkRat n d = (n : ℚ) / (d : ℚ) := by
    rw [Rat.mkRat_eq_div]
    simp only [Int.cast_natCast]
  refine ⟨?_, hlow, hhigh⟩
  rw [hrat]
  exact toNat_num_div_den hlow

/-- A fraction between zero and one is sealed as a reduced one. -/
lemma reduced_sealMean {key : MinerKey} {epochs : ℕ} {mean : ℚ} (h : 0 ≤ mean ∧ mean ≤ 1) :
    Reduced (sealMean key epochs mean).availabilityNumerator
      (sealMean key epochs mean).availabilityDenominator := by
  have hnum : ((mean.num.toNat : ℕ) : ℤ) = mean.num := Int.toNat_of_nonneg (Rat.num_nonneg.mpr h.1)
  have hself : mkRat (mean.num.toNat : ℕ) mean.den = mean := by rw [hnum, Rat.mkRat_self]
  change Reduced mean.num.toNat mean.den
  rw [Reduced, hself]
  exact ⟨hnum.symm, rfl, h.2⟩

/-- **The mean of a miner is sealed as a reduced fraction between zero and one.** -/
theorem minerMean_fraction {key : MinerKey} (h : ∀ row ∈ eligibleOf rows key, 0 ≤ row.ratio ∧ row.ratio ≤ 1) :
    ((minerMean rows key).availabilityNumerator : ℚ) / ((minerMean rows key).availabilityDenominator : ℚ) =
        meanOf rows key ∧
      (minerMean rows key).availabilityNumerator.Coprime (minerMean rows key).availabilityDenominator ∧
      (minerMean rows key).availabilityNumerator ≤ (minerMean rows key).availabilityDenominator ∧
      0 < (minerMean rows key).availabilityDenominator :=
  sealMean_fraction (meanOf_bounds h)

/-! ## The means of a window -/

/-- The miners of the means. -/
lemma keys_windowMiners (rows : List EndpointEpoch) : (windowMiners rows).map MinerMean.key =
    Sorting.sortedSet ((eligibleRows rows).map EndpointEpoch.key) := by
  rw [windowMiners, List.map_map]
  exact List.map_id _

lemma mem_windowMiners {m : MinerMean} : m ∈ windowMiners rows ↔
    ∃ row ∈ rows, row.eligible = true ∧ m = minerMean rows row.key := by
  simp only [windowMiners, List.mem_map, Sorting.mem_sortedSet, eligibleRows, List.mem_filter]
  constructor
  · rintro ⟨key, ⟨row, ⟨hrow, helig⟩, rfl⟩, rfl⟩
    exact ⟨row, hrow, helig, rfl⟩
  · rintro ⟨row, hrow, helig, rfl⟩
    exact ⟨row.key, ⟨row, ⟨hrow, helig⟩, rfl⟩, rfl⟩

/-- The means of a window depend on the rows and not on their order. -/
lemma eligibleOf_perm {rows' : List EndpointEpoch} (h : rows.Perm rows') (key : MinerKey) :
    (eligibleOf rows key).Perm (eligibleOf rows' key) :=
  (h.filter _).filter _

/-- A miner with a mean has an eligible row. -/
lemma eligibleOf_pos {row : EndpointEpoch} (hrow : row ∈ rows) (helig : row.eligible = true) :
    0 < (eligibleOf rows row.key).length := by
  apply List.length_pos_of_mem (a := row)
  rw [eligibleOf, List.mem_filter, eligibleRows, List.mem_filter]
  exact ⟨⟨hrow, helig⟩, decide_eq_true rfl⟩

/-- The hotkeys of the means are distinct. -/
lemma nodup_hotkeys_windowMiners (hpair : Dict.OneToOne (rows.map EndpointEpoch.miner)) :
    ((windowMiners rows).map MinerMean.minerHotkey).Nodup := by
  rw [windowMiners, List.map_map]
  apply List.Nodup.map_on _ (Sorting.nodup_sortedSet _)
  intro x hx y hy heq
  obtain ⟨a, ha, rfl⟩ := List.mem_map.mp (Sorting.mem_sortedSet.mp hx)
  obtain ⟨b, hb, rfl⟩ := List.mem_map.mp (Sorting.mem_sortedSet.mp hy)
  have hkeys : a.minerHotkey = b.minerHotkey := heq
  have hsame := hpair a.miner (List.mem_map_of_mem (List.mem_of_mem_filter ha)) b.miner
    (List.mem_map_of_mem (List.mem_of_mem_filter hb))
  exact congrArg toLex (Prod.ext (hsame.mpr hkeys) hkeys)

/-- A sample: the miner of an eligible endpoint in an epoch, the successes and the attempts. -/
structure Sample where
  miner : MinerKey
  successes : ℕ
  attempts : ℕ

/-- The samples of a miner. -/
def samplesOf (samples : List Sample) (key : MinerKey) : List Sample :=
  samples.filter fun x => x.miner = key

/-- **Exact means.** A miner is listed if and only if it has a sample, the miners ascend and no miner is
listed twice, and a miner's fraction is reduced, between zero and one, and equal to the arithmetic mean of
successes over attempts over the miner's samples, whose number is given. -/
structure ExactMeans (samples : List Sample) (miners : List MinerMean) : Prop where
  listed : ∀ key, key ∈ miners.map MinerMean.key ↔ ∃ x ∈ samples, x.miner = key
  ascending : (miners.map MinerMean.key).Pairwise (· < ·)
  counted : ∀ m ∈ miners, m.eligibleEndpointEpochs = (samplesOf samples m.key).length
  mean : ∀ m ∈ miners, (m.availabilityNumerator : ℚ) / (m.availabilityDenominator : ℚ) =
    ((samplesOf samples m.key).map fun x => (x.successes : ℚ) / (x.attempts : ℚ)).sum /
      (samplesOf samples m.key).length
  reduced : ∀ m ∈ miners, m.availabilityNumerator.Coprime m.availabilityDenominator ∧
    m.availabilityNumerator ≤ m.availabilityDenominator ∧ 0 < m.availabilityDenominator

/-- **The loop returns exact means**, when the availability of each eligible row is the ratio of the
successes and the attempts of its sample.

**Proof sketch.** The samples of a miner and its eligible rows are images of the same rows, so they have the
same number and the same sum of ratios. -/
theorem exactMeans_windowMiners {τ : Type} (view : τ → EndpointEpoch) (sample : τ → Sample) (ts : List τ)
    (hminer : ∀ t ∈ ts, (sample t).miner = (view t).key)
    (hratio : ∀ t ∈ ts, (view t).eligible = true →
      (view t).ratio = ((sample t).successes : ℚ) / ((sample t).attempts : ℚ) ∧ 0 ≤ (view t).ratio ∧
        (view t).ratio ≤ 1) :
    ExactMeans ((ts.filter fun t => (view t).eligible).map sample) (windowMiners (ts.map view)) := by
  set rows := ts.map view with hrows
  set samples := (ts.filter fun t => (view t).eligible).map sample with hsamples
  have helig : eligibleRows rows = (ts.filter fun t => (view t).eligible).map view := by
    rw [eligibleRows, hrows, List.filter_map]
    rfl
  -- the eligible rows and the samples of a miner come from the same endpoints
  have hrowsOf : ∀ key, eligibleOf rows key =
      ((ts.filter fun t => (view t).eligible).filter fun t => (view t).key = key).map view := by
    intro key
    rw [eligibleOf, helig, List.filter_map]
    rfl
  have hsamplesOf : ∀ key, samplesOf samples key =
      ((ts.filter fun t => (view t).eligible).filter fun t => (view t).key = key).map sample := by
    intro key
    rw [samplesOf, hsamples, List.filter_map]
    congr 1
    apply List.filter_congr
    intro t ht
    simp only [Function.comp_apply, hminer t (List.mem_of_mem_filter ht)]
  have hmean : ∀ key, meanOf rows key =
      ((samplesOf samples key).map fun x => (x.successes : ℚ) / (x.attempts : ℚ)).sum /
        (samplesOf samples key).length := by
    intro key
    rw [meanOf, hrowsOf, hsamplesOf, List.map_map, List.map_map, List.length_map, List.length_map]
    congr 2
    apply List.map_congr_left
    intro t ht
    obtain ⟨hmem, ht'⟩ := List.mem_filter.mp (List.mem_of_mem_filter ht)
    exact (hratio t hmem ht').1
  have hbounds : ∀ key, ∀ row ∈ eligibleOf rows key, 0 ≤ row.ratio ∧ row.ratio ≤ 1 := by
    intro key row hrow
    rw [hrowsOf] at hrow
    obtain ⟨t, ht, rfl⟩ := List.mem_map.mp hrow
    obtain ⟨hmem, ht'⟩ := List.mem_filter.mp (List.mem_of_mem_filter ht)
    exact (hratio t hmem ht').2
  have hkey : ∀ m ∈ windowMiners rows, m = minerMean rows m.key := by
    intro m hm
    obtain ⟨row, -, -, rfl⟩ := mem_windowMiners.mp hm
    rfl
  refine ⟨?_, ?_, ?_, ?_, ?_⟩
  · intro key
    rw [keys_windowMiners, Sorting.mem_sortedSet, helig, List.map_map, hsamples, List.mem_map]
    constructor
    · rintro ⟨t, ht, rfl⟩
      exact ⟨sample t, List.mem_map_of_mem ht, hminer t (List.mem_of_mem_filter ht)⟩
    · rintro ⟨x, hx, rfl⟩
      obtain ⟨t, ht, rfl⟩ := List.mem_map.mp hx
      exact ⟨t, ht, (hminer t (List.mem_of_mem_filter ht)).symm⟩
  · rw [keys_windowMiners]
    exact Sorting.pairwise_sortedSet _
  · intro m hm
    rw [hkey m hm]
    change (eligibleOf rows m.key).length = (samplesOf samples m.key).length
    rw [hrowsOf, hsamplesOf, List.length_map, List.length_map]
  · intro m hm
    rw [hkey m hm, (minerMean_fraction (hbounds m.key)).1]
    exact hmean m.key
  · intro m hm
    rw [hkey m hm]
    exact (minerMean_fraction (hbounds m.key)).2

end Scoring

end Misscomputer
