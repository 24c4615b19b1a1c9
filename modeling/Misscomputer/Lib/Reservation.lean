import Mathlib.Algebra.Order.Ring.Int
import Mathlib.Data.List.Basic
import Mathlib.Tactic.Lemma

set_option relaxedAutoImplicit false
set_option autoImplicit false

/-!
# Reservations that expire

A table holds keys, each with the time at which it expires. A reservation removes what has expired, and then
takes its key unless it is still there. A key guards itself: as long as the clock has not reached a time that
its row outlives, every reservation of it is refused.

## Main definitions

* `Reservation.purge`, `Reservation.reserve` — the two operations of a table.
* `Reservation.Guards` — a table keeps a key up to a time.

## Main results

* `Reservation.Guards.refuses` — a guarded key is not reserved.
* `Reservation.Guards.reserve` — a reservation of any key leaves it guarded.
* `Reservation.guards_of_reserve` — a reservation guards its own key.
-/

namespace Reservation

variable {κ : Type}

/-- Keys with the times at which they expire. -/
abbrev Rows (κ : Type) : Type := List (κ × ℤ)

/-- Remove what has expired. -/
def purge (now : ℤ) (rows : Rows κ) : Rows κ := rows.filter fun row => now < row.2

variable [DecidableEq κ]

/-- Remove what has expired and add a key, or do nothing where the key is still there. -/
def reserve (rows : Rows κ) (key : κ) (expires now : ℤ) : Rows κ × Bool :=
  if key ∈ (purge now rows).map Prod.fst then (rows, false) else ((key, expires) :: purge now rows, true)

/-- The table has a row of the key that lives until a time, unless the clock is past it. -/
def Guards (rows : Rows κ) (clock : ℤ) (key : κ) (deadline : ℤ) : Prop :=
  clock < deadline → ∃ expires, deadline ≤ expires ∧ (key, expires) ∈ rows

variable {rows : Rows κ} {key key' : κ} {clock now deadline expires : ℤ}

omit [DecidableEq κ] in
lemma mem_purge {row : κ × ℤ} : row ∈ purge now rows ↔ row ∈ rows ∧ now < row.2 := by
  rw [purge, List.mem_filter, decide_eq_true_iff]

lemma reserve_cases (rows : Rows κ) (key : κ) (expires now : ℤ) :
    (key ∈ (purge now rows).map Prod.fst ∧ reserve rows key expires now = (rows, false)) ∨
      (key ∉ (purge now rows).map Prod.fst ∧ reserve rows key expires now = ((key, expires) :: purge now rows, true)) := by
  unfold reserve
  split
  · rename_i h
    exact .inl ⟨h, rfl⟩
  · rename_i h
    exact .inr ⟨h, rfl⟩

omit [DecidableEq κ] in
/-- Time passes. -/
lemma Guards.mono (h : Guards rows clock key deadline) (hclock : clock ≤ now) : Guards rows now key deadline :=
  fun hnow => h (lt_of_le_of_lt hclock hnow)

/-- **A guarded key is refused**, and the table is left alone. -/
theorem Guards.refuses (h : Guards rows clock key deadline) (hclock : clock ≤ now) (hnow : now < deadline) :
    reserve rows key expires now = (rows, false) := by
  obtain ⟨alive, hdeadline, hmem⟩ := h (lt_of_le_of_lt hclock hnow)
  rcases reserve_cases rows key expires now with ⟨-, hrefused⟩ | ⟨hfree, -⟩
  · exact hrefused
  · exact absurd (List.mem_map_of_mem (mem_purge.mpr ⟨hmem, lt_of_lt_of_le hnow hdeadline⟩)) hfree

/-- **A guarded key stays guarded**, whatever is reserved. -/
theorem Guards.reserve (h : Guards rows clock key deadline) (hclock : clock ≤ now) :
    Guards (reserve rows key' expires now).1 now key deadline := by
  intro hnow
  obtain ⟨alive, hdeadline, hmem⟩ := h (lt_of_le_of_lt hclock hnow)
  refine ⟨alive, hdeadline, ?_⟩
  rcases reserve_cases rows key' expires now with ⟨-, heq⟩ | ⟨-, heq⟩
  · rw [heq]
    exact hmem
  · rw [heq]
    exact List.mem_cons_of_mem _ (mem_purge.mpr ⟨hmem, lt_of_lt_of_le hnow hdeadline⟩)

/-- **A reservation guards its key** until any time before it expires. -/
theorem guards_of_reserve (h : (Reservation.reserve rows key expires now).2 = true) (hdeadline : deadline ≤ expires) :
    Guards (Reservation.reserve rows key expires now).1 now key deadline := by
  intro _
  refine ⟨expires, hdeadline, ?_⟩
  rcases reserve_cases rows key expires now with ⟨-, heq⟩ | ⟨-, heq⟩
  · rw [heq] at h
    cases h
  · rw [heq]
    exact List.mem_cons_self

end Reservation
