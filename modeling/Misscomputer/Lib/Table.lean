import Mathlib.Algebra.Order.BigOperators.Group.List
import Mathlib.Algebra.Order.Monoid.Defs
import Mathlib.Data.List.Nodup
import Mathlib.Tactic.Lemma

set_option relaxedAutoImplicit false
set_option autoImplicit false

/-!
# Relational tables as lists of rows

A table is the list of its rows. `UPDATE … WHERE` rewrites the rows that match, `SELECT SUM`
adds up a column over the rows that match, and a `UNIQUE` column is one whose values have no
duplicates. Rows are never deleted: every table change below is a `List.map` followed by an
append, and the lemmas say how the sums and the unique columns follow such a change.

## Main definitions

* `Table.updateWhere` — `UPDATE t SET f WHERE p`.
* `Table.sumWhere` — `SELECT SUM(w) FROM t WHERE p`.
* `Table.UniqueOn` — the column `key` is `UNIQUE`.
* `Table.rowOf` — `SELECT … WHERE key = k` on a `PRIMARY KEY`.

## Main results

* `Table.sumWhere_map_le` — a rewriting that moves no row into the sum cannot raise it.
* `Table.sumWhere_map_add_le` — a rewriting that takes one row out of the sum lowers it by the
  weight of that row at least.
* `Table.UniqueOn.map`, `Table.UniqueOn.append` — unique columns are kept.
* `Table.rowOf_updateWhere`, `Table.rowOf_append` — what a lookup finds after a table change.
-/

namespace Table

variable {α β : Type*}

/-- `UPDATE t SET f WHERE p`. -/
def updateWhere (p : α → Bool) (f : α → α) (t : List α) : List α :=
  t.map fun r => if p r then f r else r

/-! ## Sums over the matching rows -/

section Sum

variable {M : Type*} [AddCommMonoid M]

/-- `SELECT SUM(w) FROM t WHERE p`; the empty sum is `0` (`COALESCE(SUM(w), 0)`). -/
def sumWhere (p : α → Bool) (w : α → M) (t : List α) : M :=
  ((t.filter p).map w).sum

variable (p : α → Bool) (w : α → M)

@[simp] lemma sumWhere_nil : sumWhere p w [] = 0 := rfl

lemma sumWhere_cons (r : α) (t : List α) :
    sumWhere p w (r :: t) = (if p r then w r else 0) + sumWhere p w t := by
  cases h : p r <;> simp [sumWhere, h]

lemma sumWhere_append (t u : List α) :
    sumWhere p w (t ++ u) = sumWhere p w t + sumWhere p w u := by
  simp [sumWhere]

variable [PartialOrder M] [IsOrderedAddMonoid M]

lemma sumWhere_nonneg {t : List α} (hw : ∀ r ∈ t, 0 ≤ w r) : 0 ≤ sumWhere p w t := by
  refine List.sum_nonneg fun x hx => ?_
  obtain ⟨r, hr, rfl⟩ := List.mem_map.mp hx
  exact hw r (List.mem_of_mem_filter hr)

/-- **A rewriting that moves no row into the sum cannot raise it.**

**Proof sketch.** Induction on the table. A row still counted after the rewriting was counted
before with the same weight; a row that left the sum had a nonnegative weight. -/
lemma sumWhere_map_le {q : α → Bool} (f : α → α) {t : List α} (hw : ∀ r ∈ t, 0 ≤ w r)
    (hf : ∀ r ∈ t, q (f r) = true → p r = true ∧ w (f r) = w r) :
    sumWhere q w (t.map f) ≤ sumWhere p w t := by
  induction t with
  | nil => simp
  | cons r t ih =>
    rw [List.map_cons, sumWhere_cons, sumWhere_cons]
    refine add_le_add ?_ (ih (fun x hx => hw x (List.mem_cons_of_mem _ hx))
      (fun x hx => hf x (List.mem_cons_of_mem _ hx)))
    by_cases hq : q (f r) = true
    · obtain ⟨hp, hwr⟩ := hf r List.mem_cons_self hq
      rw [if_pos hq, if_pos hp, hwr]
    · rw [if_neg hq]
      split
      · exact hw r List.mem_cons_self
      · exact le_rfl

/-- Counting fewer rows of the same table cannot raise the sum. -/
lemma sumWhere_le_of_imp {q : α → Bool} {t : List α} (hw : ∀ r ∈ t, 0 ≤ w r)
    (h : ∀ r ∈ t, q r = true → p r = true) : sumWhere q w t ≤ sumWhere p w t := by
  simpa using sumWhere_map_le p w id hw fun r hr hq => ⟨h r hr hq, rfl⟩

/-- **A rewriting that takes the row `r₀` out of the sum lowers it by `w r₀` at least.**

**Proof sketch.** Induction on the table, up to the position of `r₀`. Before it every row is as in
`sumWhere_map_le`; at `r₀` the left side has `0` where the right side has `w r₀`; behind it
`sumWhere_map_le` itself applies. -/
lemma sumWhere_map_add_le {q : α → Bool} (f : α → α) {t : List α} (hw : ∀ r ∈ t, 0 ≤ w r)
    (hf : ∀ r ∈ t, q (f r) = true → p r = true ∧ w (f r) = w r) {r₀ : α} (hr₀ : r₀ ∈ t)
    (hin : p r₀ = true) (hout : q (f r₀) = false) :
    sumWhere q w (t.map f) + w r₀ ≤ sumWhere p w t := by
  induction t with
  | nil => simp at hr₀
  | cons r t ih =>
    have hw' : ∀ x ∈ t, 0 ≤ w x := fun x hx => hw x (List.mem_cons_of_mem _ hx)
    have hf' : ∀ x ∈ t, q (f x) = true → p x = true ∧ w (f x) = w x :=
      fun x hx => hf x (List.mem_cons_of_mem _ hx)
    rw [List.map_cons, sumWhere_cons, sumWhere_cons]
    rcases List.mem_cons.mp hr₀ with rfl | hmem
    · rw [if_pos hin, hout, if_neg Bool.false_ne_true, zero_add, add_comm]
      exact add_le_add le_rfl (sumWhere_map_le p w f hw' hf')
    · rw [add_assoc]
      refine add_le_add ?_ (ih hw' hf' hmem)
      by_cases hq : q (f r) = true
      · obtain ⟨hp, hwr⟩ := hf r List.mem_cons_self hq
        rw [if_pos hq, if_pos hp, hwr]
      · rw [if_neg hq]
        split
        · exact hw r List.mem_cons_self
        · exact le_rfl

end Sum

/-! ## Unique columns -/

/-- The column `key` of the table is `UNIQUE`. -/
def UniqueOn (key : α → β) (t : List α) : Prop :=
  (t.map key).Nodup

namespace UniqueOn

variable {key : α → β} {t : List α}

@[simp] lemma nil : UniqueOn key ([] : List α) := List.nodup_nil

/-- Two rows with the same value in a unique column are the same row. -/
lemma eq_of_key (h : UniqueOn key t) {r s : α} (hr : r ∈ t) (hs : s ∈ t) (hk : key r = key s) :
    r = s :=
  List.inj_on_of_nodup_map h hr hs hk

/-- An update that leaves the column alone keeps it unique. -/
lemma map (h : UniqueOn key t) {f : α → α} (hf : ∀ r ∈ t, key (f r) = key r) :
    UniqueOn key (t.map f) := by
  have : (t.map f).map key = t.map key := by
    rw [List.map_map]
    exact List.map_congr_left hf
  unfold UniqueOn
  rw [this]
  exact h

/-- Inserting a row whose value is new keeps the column unique. -/
lemma append (h : UniqueOn key t) {r : α} (hr : ∀ s ∈ t, key s ≠ key r) :
    UniqueOn key (t ++ [r]) := by
  unfold UniqueOn at *
  rw [List.map_append, List.nodup_append]
  refine ⟨h, List.nodup_singleton _, ?_⟩
  intro a ha b hb
  obtain ⟨s, hs, rfl⟩ := List.mem_map.mp ha
  obtain rfl : b = key r := by simpa using hb
  exact hr s hs

end UniqueOn

/-! ## Lookups by a primary key -/

section Lookup

variable [DecidableEq β] (key : α → β)

/-- `SELECT … WHERE key = k`, where `key` is the primary key. -/
def rowOf (t : List α) (k : β) : Option α := t.find? fun r => key r = k

@[simp] lemma rowOf_nil (k : β) : rowOf key [] k = none := rfl

variable {key}

/-- A row found under `k` is a row of the table with that key. -/
lemma rowOf_eq_some {t : List α} {k : β} {r : α} (h : rowOf key t k = some r) :
    r ∈ t ∧ key r = k :=
  ⟨List.mem_of_find?_eq_some h, by simpa using List.find?_some h⟩

/-- **A lookup after an update.** An update that leaves the keys alone is seen through a lookup as
the same update of the row found. -/
lemma rowOf_updateWhere {p : α → Bool} {f : α → α} (hf : ∀ r, key (f r) = key r) (t : List α)
    (k : β) :
    rowOf key (updateWhere p f t) k = (rowOf key t k).map fun r => if p r then f r else r := by
  have hkey : ∀ r, key (if p r then f r else r) = key r := by
    intro r
    split
    · exact hf r
    · rfl
  induction t with
  | nil => rfl
  | cons r t ih =>
    unfold rowOf updateWhere at *
    rw [List.map_cons, List.find?_cons, List.find?_cons, hkey]
    by_cases hr : key r = k
    · simp [hr]
    · simpa [hr] using ih

/-- A lookup after an insertion: an earlier row comes first. -/
lemma rowOf_append (t : List α) (r : α) (k : β) :
    rowOf key (t ++ [r]) k = (rowOf key t k).or (if key r = k then some r else none) := by
  unfold rowOf
  rw [List.find?_append]
  by_cases hr : key r = k <;> simp [hr]

end Lookup

end Table
