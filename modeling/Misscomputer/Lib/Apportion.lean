import Mathlib.Algebra.BigOperators.Group.List.Basic
import Mathlib.Algebra.Order.BigOperators.Group.List
import Mathlib.Algebra.Order.Ring.Int
import Mathlib.Data.List.Perm.Subperm
import Mathlib.Data.Prod.Lex
import Mathlib.Tactic.Lemma
import Mathlib.Tactic.Linarith
import Mathlib.Tactic.Ring
import Misscomputer.Lib.Sorting

set_option relaxedAutoImplicit false
set_option autoImplicit false

/-!
# Apportionment by largest remainders

A number of equal units is shared out in proportion to weights: each claimant gets the floor of its exact share, and
the units that are left over go, one each, to the claimants with the largest remainders. A key orders the claimants
with equal remainders.

## Main definitions

* `Apportion.quotient`, `Apportion.remainder` — the floor of an exact share, and what it leaves.
* `Apportion.order` — the claimants in descending order of their remainders, then in ascending order of their keys.
* `Apportion.share` — what a claimant gets.

## Main results

* `Apportion.sum_share` — all units are shared out.
* `Apportion.share_floor_or_ceil` — a share is the exact share, rounded down or up.
* `Apportion.share_le_of_lt` — a larger weight has no smaller share.
* `Apportion.share_of_eq` — of two equal weights that of the smaller key has the same share or one unit more.
* `Apportion.share_perm` — shares do not depend on the order of the claimants.
-/

namespace Apportion

variable {α κ : Type} [LinearOrder κ]

section Definitions

variable (units : ℤ) (weight : α → ℤ) (key : α → κ) (l : List α)

/-- The sum of the weights. -/
def total : ℤ := (l.map weight).sum

/-- The exact share of a claimant, rounded down. -/
def quotient (a : α) : ℤ := weight a * units / total weight l

/-- What the rounded share leaves. -/
def remainder (a : α) : ℤ := weight a * units % total weight l

/-- The units that are left over. -/
def leftover : ℤ := units - (l.map (quotient units weight l)).sum

/-- The place of a claimant among those who may get a unit more. -/
def place (a : α) : ℤ ×ₗ κ := toLex (-remainder units weight l a, key a)

/-- The claimants in the order in which they get a unit more. -/
def order : List α := Sorting.sortOn (place units weight key l) l

/-- The claimants who get a unit more. -/
def raised : List α := (order units weight key l).take (leftover units weight l).toNat

/-- What a claimant gets. -/
def share [DecidableEq α] (a : α) : ℤ :=
  quotient units weight l a + if a ∈ raised units weight key l then 1 else 0

end Definitions

variable {units : ℤ} {weight : α → ℤ} {key : α → κ} {l l' : List α} {a b : α}

/-! ## What is left over -/

lemma quotient_add_remainder (a : α) :
    total weight l * quotient units weight l a + remainder units weight l a = weight a * units :=
  Int.mul_ediv_add_emod _ _

lemma remainder_nonneg (htotal : 0 < total weight l) (a : α) : 0 ≤ remainder units weight l a :=
  Int.emod_nonneg _ htotal.ne'

lemma remainder_lt (htotal : 0 < total weight l) (a : α) : remainder units weight l a < total weight l :=
  Int.emod_lt_of_pos _ htotal

/-- The remainders are the units that are left over, in parts of a unit. -/
lemma sum_remainder : (l.map (remainder units weight l)).sum = total weight l * leftover units weight l := by
  have hsum : ∀ t : List α, total weight l * (t.map (quotient units weight l)).sum +
      (t.map (remainder units weight l)).sum = (t.map weight).sum * units := by
    intro t
    induction t with
    | nil => simp
    | cons a t ih =>
      have hstep := @quotient_add_remainder α units weight l a
      simp only [List.map_cons, List.sum_cons, mul_add, add_mul]
      linarith
  have := hsum l
  rw [leftover, mul_sub]
  change _ = total weight l * units at this
  linarith

lemma leftover_nonneg (htotal : 0 < total weight l) : 0 ≤ leftover units weight l := by
  have hsum : 0 ≤ (l.map (remainder units weight l)).sum := by
    apply List.sum_nonneg
    intro r hr
    obtain ⟨a, -, rfl⟩ := List.mem_map.mp hr
    exact remainder_nonneg htotal a
  rw [sum_remainder] at hsum
  exact nonneg_of_mul_nonneg_right hsum htotal

/-- There are no more units left over than claimants with a remainder. -/
lemma leftover_le (htotal : 0 < total weight l) :
    leftover units weight l ≤ (l.filter fun a => 0 < remainder units weight l a).length := by
  have hsum : ∀ t : List α, (t.map (remainder units weight l)).sum ≤
      total weight l * (t.filter fun a => 0 < remainder units weight l a).length := by
    intro t
    induction t with
    | nil => simp
    | cons a t ih =>
      have hlt := @remainder_lt α units weight l htotal a
      rw [List.map_cons, List.sum_cons, List.filter_cons]
      split
      · rw [List.length_cons, Nat.cast_add, Nat.cast_one, mul_add, mul_one]
        linarith
      · rename_i hzero
        rw [decide_eq_true_eq, not_lt] at hzero
        linarith
  have hbound := hsum l
  rw [sum_remainder] at hbound
  exact le_of_mul_le_mul_left hbound htotal

/-! ## Who gets a unit more -/

lemma mem_order : a ∈ order units weight key l ↔ a ∈ l := Sorting.mem_sortOn

lemma mem_of_mem_raised (h : a ∈ raised units weight key l) : a ∈ l :=
  mem_order.mp (List.mem_of_mem_take h)

lemma nodup_raised (hl : l.Nodup) : (raised units weight key l).Nodup :=
  ((Sorting.sortOn_perm _ l).nodup_iff.mpr hl).sublist (List.take_sublist _ _)

lemma length_raised (htotal : 0 < total weight l) :
    ((raised units weight key l).length : ℤ) = leftover units weight l := by
  have hnonneg := @leftover_nonneg α units weight l htotal
  have hle := @leftover_le α units weight l htotal
  have hfilter := List.length_filter_le (fun a => decide (0 < remainder units weight l a)) l
  rw [raised, List.length_take, order, Sorting.length_sortOn]
  omega

/-- A claimant in front of one who gets a unit more gets one too. -/
lemma mem_raised_of_place_lt (ha : a ∈ l) (hb : b ∈ raised units weight key l)
    (h : place units weight key l a < place units weight key l b) : a ∈ raised units weight key l := by
  by_contra hnot
  have hsorted := Sorting.pairwise_sortOn (place units weight key l) l
  rw [← order, ← List.take_append_drop (leftover units weight l).toNat (order units weight key l),
    List.pairwise_append] at hsorted
  have hdrop : a ∈ (order units weight key l).drop (leftover units weight l).toNat := by
    have hmem : a ∈ order units weight key l := mem_order.mpr ha
    rw [← List.take_append_drop (leftover units weight l).toNat (order units weight key l),
      List.mem_append] at hmem
    exact hmem.resolve_left hnot
  exact absurd h (not_lt.mpr (hsorted.2.2 b hb a hdrop))

lemma place_lt_of_remainder (h : remainder units weight l a < remainder units weight l b) :
    place units weight key l b < place units weight key l a :=
  Prod.Lex.toLex_lt_toLex.mpr (Or.inl (neg_lt_neg h))

lemma place_lt_of_key (h : remainder units weight l a = remainder units weight l b) (hkey : key a < key b) :
    place units weight key l a < place units weight key l b :=
  Prod.Lex.toLex_lt_toLex.mpr (Or.inr ⟨congrArg Neg.neg h, hkey⟩)

/-- **Only a claimant with a remainder gets a unit more.**

**Proof sketch.** Those with a remainder come first, so that all of them would get one as well: more than there are
units left over. -/
lemma remainder_pos_of_mem_raised (hl : l.Nodup) (htotal : 0 < total weight l)
    (h : a ∈ raised units weight key l) : 0 < remainder units weight l a := by
  by_contra hzero
  have hsub : a :: l.filter (fun b => 0 < remainder units weight l b) ⊆ raised units weight key l := by
    intro b hb
    rcases List.mem_cons.mp hb with rfl | hb
    · exact h
    · obtain ⟨hmem, hpos⟩ := List.mem_filter.mp hb
      have hlt : remainder units weight l a < remainder units weight l b :=
        (not_lt.mp hzero).trans_lt (of_decide_eq_true hpos)
      exact mem_raised_of_place_lt hmem h (place_lt_of_remainder hlt)
  have hnodup : (a :: l.filter (fun b => 0 < remainder units weight l b)).Nodup := by
    refine List.nodup_cons.mpr ⟨fun ha => ?_, hl.filter _⟩
    exact hzero (of_decide_eq_true (List.mem_filter.mp ha).2)
  have hlength := (List.subperm_of_subset hnodup hsub).length_le
  have hraised := @length_raised α κ _ units weight key l htotal
  have hleftover := @leftover_le α units weight l htotal
  rw [List.length_cons] at hlength
  omega

/-! ## The shares -/

variable [DecidableEq α]

/-- **All units are shared out.** -/
theorem sum_share (hl : l.Nodup) (htotal : 0 < total weight l) :
    (l.map (share units weight key l)).sum = units := by
  have hsplit : ∀ t : List α, (t.map (share units weight key l)).sum =
      (t.map (quotient units weight l)).sum + (t.filter (· ∈ raised units weight key l)).length := by
    intro t
    induction t with
    | nil => simp
    | cons a t ih =>
      rw [List.map_cons, List.sum_cons, List.map_cons, List.sum_cons, List.filter_cons, ih, share]
      by_cases hraised : a ∈ raised units weight key l
      · rw [if_pos hraised, if_pos (decide_eq_true hraised), List.length_cons, Nat.cast_add, Nat.cast_one]
        ring
      · rw [if_neg hraised, if_neg (by simpa using hraised)]
        ring
  have hperm : (l.filter (· ∈ raised units weight key l)).Perm (raised units weight key l) := by
    refine (List.perm_ext_iff_of_nodup (hl.filter _) (nodup_raised hl)).mpr fun a => ?_
    rw [List.mem_filter, decide_eq_true_eq]
    exact ⟨fun h => h.2, fun h => ⟨mem_of_mem_raised h, h⟩⟩
  rw [hsplit, hperm.length_eq, length_raised htotal, leftover]
  ring

/-- **A share is the exact share, rounded down or up.** -/
theorem share_floor_or_ceil (hl : l.Nodup) (htotal : 0 < total weight l) (a : α) :
    share units weight key l a = weight a * units / total weight l ∨
      share units weight key l a = -(-(weight a * units) / total weight l) := by
  rw [share]
  split
  · rename_i hraised
    right
    -- with a remainder, the floor of the opposite is one less than the opposite of the floor
    have hpos := remainder_pos_of_mem_raised hl htotal hraised
    have hlt := @remainder_lt α units weight l htotal a
    have hexact := @quotient_add_remainder α units weight l a
    have hneg : -(weight a * units) / total weight l = -(quotient units weight l a + 1) := by
      rw [Int.ediv_eq_iff_of_pos htotal]
      constructor <;> nlinarith
    rw [hneg]
    ring
  · left
    rw [add_zero, quotient]

lemma quotient_le_share (a : α) : quotient units weight l a ≤ share units weight key l a := by
  rw [share]
  split <;> omega

lemma share_le (a : α) : share units weight key l a ≤ quotient units weight l a + 1 := by
  rw [share]
  split <;> omega

/-- **A larger weight has no smaller share.**

**Proof sketch.** Its floor is not smaller. Where the floors are equal its remainder is larger, so that it comes
first. -/
theorem share_le_of_lt (hunits : 0 < units) (htotal : 0 < total weight l) (hb : b ∈ l) (h : weight a < weight b) :
    share units weight key l a ≤ share units weight key l b := by
  have hmul : weight a * units < weight b * units := mul_lt_mul_of_pos_right h hunits
  have hquotient : quotient units weight l a ≤ quotient units weight l b :=
    Int.ediv_le_ediv htotal hmul.le
  rcases hquotient.lt_or_eq with hlt | heq
  · have hshare := @share_le α κ _ units weight key l _ a
    have hquotient' := @quotient_le_share α κ _ units weight key l _ b
    omega
  · have hremainder : remainder units weight l a < remainder units weight l b := by
      have hexact := @quotient_add_remainder α units weight l a
      have hexact' := @quotient_add_remainder α units weight l b
      rw [heq] at hexact
      linarith
    rw [share, share, heq]
    by_cases hraised : a ∈ raised units weight key l
    · rw [if_pos hraised, if_pos (mem_raised_of_place_lt hb hraised (place_lt_of_remainder hremainder))]
    · rw [if_neg hraised]
      split <;> omega

/-- **Equal weights have equal shares**, or that of the smaller key is one unit more. -/
theorem share_of_eq (ha : a ∈ l) (h : weight a = weight b) (hkey : key a < key b) :
    share units weight key l b ≤ share units weight key l a ∧
      share units weight key l a ≤ share units weight key l b + 1 := by
  have hquotient : quotient units weight l a = quotient units weight l b := by rw [quotient, quotient, h]
  have hremainder : remainder units weight l a = remainder units weight l b := by rw [remainder, remainder, h]
  rw [share, share, hquotient]
  by_cases hraised : b ∈ raised units weight key l
  · rw [if_pos hraised, if_pos (mem_raised_of_place_lt ha hraised (place_lt_of_key hremainder hkey))]
    omega
  · rw [if_neg hraised]
    split <;> omega

/-- **Shares do not depend on the order of the claimants.** -/
theorem share_perm (hperm : l.Perm l') (hkeys : (l.map key).Nodup) (a : α) :
    share units weight key l a = share units weight key l' a := by
  have htotal : total weight l = total weight l' := (hperm.map weight).sum_eq
  have hquotient : quotient units weight l = quotient units weight l' := by
    funext a
    rw [quotient, quotient, htotal]
  have hplace : place units weight key l = place units weight key l' := by
    funext a
    rw [place, place, remainder, remainder, htotal]
  have hleftover : leftover units weight l = leftover units weight l' := by
    rw [leftover, leftover, hquotient, (hperm.map _).sum_eq]
  have hplaces : (l.map (place units weight key l)).Nodup := by
    apply List.Nodup.of_map fun p : ℤ ×ₗ κ => (ofLex p).2
    rw [List.map_map]
    exact hkeys
  have horder : order units weight key l = order units weight key l' := by
    rw [order, order, ← hplace]
    exact Sorting.sortOn_congr hperm hplaces
  rw [share, share, raised, raised, horder, hleftover, hquotient]

end Apportion
