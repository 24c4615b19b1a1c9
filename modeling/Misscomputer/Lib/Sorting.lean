import Mathlib.Data.List.Dedup
import Mathlib.Data.List.Sort
import Mathlib.Tactic.Lemma

set_option relaxedAutoImplicit false
set_option autoImplicit false

/-!
# Sorting by a key

Stable sorting of records by a key, and the sorted list of the distinct elements of a list. Where the keys
are distinct the sorted list depends on the records alone, not on the order in which they came.

## Main definitions

* `Sorting.sortOn` — the records in ascending order of their keys, those of one key in their old order.
* `Sorting.sortedSet` — the distinct elements in ascending order.

## Main results

* `Sorting.sortOn_congr` — with distinct keys, the sorted list does not depend on the order of the records.
* `Sorting.sortedSet_congr` — nor does the sorted list of the distinct elements, in any case.
* `Sorting.eq_sortedSet_iff` — the lists that are their own are those in strictly ascending order.
-/

namespace Sorting

variable {α κ : Type} [LinearOrder κ]

/-- The records in ascending order of their keys. -/
def sortOn (key : α → κ) (l : List α) : List α := l.insertionSort fun a b => key a ≤ key b

variable {key : α → κ} {l l' : List α}

lemma sortOn_perm (key : α → κ) (l : List α) : (sortOn key l).Perm l :=
  List.perm_insertionSort _ l

@[simp] lemma mem_sortOn {a : α} : a ∈ sortOn key l ↔ a ∈ l :=
  (sortOn_perm key l).mem_iff

@[simp] lemma length_sortOn : (sortOn key l).length = l.length :=
  (sortOn_perm key l).length_eq

/-- The comparison of keys is total. -/
instance total_key : Std.Total fun a b : α => key a ≤ key b := ⟨fun a b => le_total (key a) (key b)⟩

/-- The comparison of keys is transitive. -/
instance isTrans_key : IsTrans α fun a b : α => key a ≤ key b := ⟨fun _ _ _ => le_trans⟩

lemma pairwise_sortOn (key : α → κ) (l : List α) :
    (sortOn key l).Pairwise fun a b => key a ≤ key b :=
  List.pairwise_insertionSort _ l

/-- A list in ascending order of its keys is sorted already. -/
lemma sortOn_eq_self (h : l.Pairwise fun a b => key a ≤ key b) : sortOn key l = l :=
  List.Pairwise.insertionSort_eq h

/-- Two lists of the same records, each in ascending order of distinct keys, are equal.

**Proof sketch.** Keys decide the order, and two records with one key are one record. -/
lemma eq_of_pairwise (hperm : l.Perm l') (hkeys : (l.map key).Nodup)
    (hl : l.Pairwise fun a b => key a ≤ key b) (hl' : l'.Pairwise fun a b => key a ≤ key b) :
    l = l' := by
  refine hperm.eq_of_pairwise ?_ hl hl'
  intro a b ha hb hab hba
  exact List.inj_on_of_nodup_map hkeys ha (hperm.mem_iff.mpr hb) (le_antisymm hab hba)

/-- **With distinct keys, the sorted list depends on the records alone.** -/
theorem sortOn_congr (hperm : l.Perm l') (hkeys : (l.map key).Nodup) :
    sortOn key l = sortOn key l' := by
  refine eq_of_pairwise (l := sortOn key l) ?_ ?_ (pairwise_sortOn key l) (pairwise_sortOn key l')
  · exact ((sortOn_perm key l).trans hperm).trans (sortOn_perm key l').symm
  · exact ((sortOn_perm key l).map key).nodup_iff.mpr hkeys

/-- Sorting twice is sorting once. -/
lemma sortOn_sortOn : sortOn key (sortOn key l) = sortOn key l :=
  sortOn_eq_self (pairwise_sortOn key l)

/-! ## The distinct elements -/

section Set

variable {xs ys : List κ}

/-- The distinct elements in ascending order. -/
def sortedSet (xs : List κ) : List κ := sortOn id xs.dedup

@[simp] lemma mem_sortedSet {x : κ} : x ∈ sortedSet xs ↔ x ∈ xs := by
  rw [sortedSet, mem_sortOn, List.mem_dedup]

lemma nodup_sortedSet (xs : List κ) : (sortedSet xs).Nodup :=
  (sortOn_perm id xs.dedup).nodup_iff.mpr xs.nodup_dedup

lemma pairwise_sortedSet (xs : List κ) : (sortedSet xs).Pairwise (· < ·) := by
  have hle : (sortedSet xs).Pairwise (· ≤ ·) := pairwise_sortOn id xs.dedup
  exact (hle.and (nodup_sortedSet xs)).imp fun h => lt_of_le_of_ne h.1 h.2

/-- A list in strictly ascending order is determined by its elements. -/
lemma eq_of_ascending (hxs : xs.Pairwise (· < ·)) (hys : ys.Pairwise (· < ·))
    (h : ∀ x, x ∈ xs ↔ x ∈ ys) : xs = ys := by
  have hperm : xs.Perm ys := (List.perm_ext_iff_of_nodup hxs.nodup hys.nodup).mpr h
  refine hperm.eq_of_pairwise ?_ hxs hys
  intro a b _ _ hab hba
  exact absurd hab (lt_asymm hba)

/-- **The sorted list of the distinct elements depends on the set alone.** -/
theorem sortedSet_congr (h : ∀ x, x ∈ xs ↔ x ∈ ys) : sortedSet xs = sortedSet ys := by
  apply eq_of_ascending (pairwise_sortedSet xs) (pairwise_sortedSet ys)
  intro x
  rw [mem_sortedSet, mem_sortedSet, h]

/-- **The lists that are canonical** are those in strictly ascending order. -/
theorem eq_sortedSet_iff : xs = sortedSet xs ↔ xs.Pairwise (· < ·) := by
  constructor
  · intro h
    rw [h]
    exact pairwise_sortedSet xs
  · intro h
    apply eq_of_ascending h (pairwise_sortedSet xs)
    intro x
    rw [mem_sortedSet]

/-- The sorted distinct elements are canonical. -/
lemma sortedSet_idem : sortedSet (sortedSet xs) = sortedSet xs :=
  (eq_sortedSet_iff.mpr (pairwise_sortedSet xs)).symm

lemma length_sortedSet_le : (sortedSet xs).length ≤ xs.length := by
  rw [sortedSet, length_sortOn]
  exact (List.dedup_sublist xs).length_le

end Set

end Sorting
