import Mathlib.Algebra.BigOperators.Group.List.Basic
import Mathlib.Algebra.BigOperators.Ring.List
import Mathlib.Algebra.Order.BigOperators.Group.List
import Mathlib.Algebra.Order.Field.Basic
import Mathlib.Tactic.FieldSimp

set_option relaxedAutoImplicit false
set_option autoImplicit false

/-!
# Weights that sum to one

Weights are divided by their sum, and what rounding has left over is added to the first largest quotient. In exact
arithmetic nothing is left over.

## Main definitions

* `Normalize.correctionIndex` — the first index of a largest element.
* `Normalize.normalize` — the normalized weights.

## Main results

* `Normalize.normalize_eq` — in a field, they are the quotients.
* `Normalize.sum_normalize`, `Normalize.normalize_range` — they sum to one, and positive weights stay between zero and one.
-/

namespace Normalize

variable {F : Type} [Field F] [LinearOrder F]

/-- `max(range(len(xs)), key=lambda index: xs[index])`. -/
def correctionIndex (xs : List F) : ℕ := xs.findIdx fun x => decide (∀ y ∈ xs, y ≤ x)

/-- The weights with what they lack to one added to the first largest of them. -/
def correct (xs : List F) : List F := xs.modify (correctionIndex xs) fun x => x + (1 - xs.sum)

/-- The weights, divided by their sum and corrected. -/
def normalize (xs : List F) : List F := correct (xs.map fun x => x / xs.sum)

section Exact

variable {xs : List F}

omit [LinearOrder F] in
lemma sum_map_div (h : xs.sum ≠ 0) : (xs.map fun x => x / xs.sum).sum = 1 := by
  have hmul : (xs.map fun x => x / xs.sum) = xs.map fun x => x * (xs.sum)⁻¹ := by
    simp only [div_eq_mul_inv]
  rw [hmul, List.sum_map_mul_right, List.map_id', mul_inv_cancel₀ h]

lemma correct_eq_self (h : xs.sum = 1) : correct xs = xs := by
  have hid : (fun x : F => x + (1 - xs.sum)) = id := by
    funext x
    rw [h, sub_self, add_zero, id]
  rw [correct, hid, List.modify_id]

/-- **In exact arithmetic the normalized weights are the quotients.** -/
theorem normalize_eq (h : xs.sum ≠ 0) : normalize xs = xs.map fun x => x / xs.sum :=
  correct_eq_self (sum_map_div h)

/-- The normalized weights sum to one. -/
theorem sum_normalize (h : xs.sum ≠ 0) : (normalize xs).sum = 1 := by
  rw [normalize_eq h, sum_map_div h]

variable [IsStrictOrderedRing F]

/-- Normalized positive weights are positive and at most one. -/
theorem normalize_range (hpos : ∀ x ∈ xs, 0 < x) {x : F} (hx : x ∈ xs) : 0 < x / xs.sum ∧ x / xs.sum ≤ 1 := by
  have hle : x ≤ xs.sum := List.single_le_sum (fun y hy => (hpos y hy).le) x hx
  have hsum : 0 < xs.sum := (hpos x hx).trans_le hle
  exact ⟨div_pos (hpos x hx) hsum, (div_le_one hsum).mpr hle⟩

/-- The sum of positive weights is positive. -/
lemma sum_pos (hpos : ∀ x ∈ xs, 0 < x) (hne : xs ≠ []) : 0 < xs.sum := List.sum_pos xs hpos hne

end Exact

end Normalize
