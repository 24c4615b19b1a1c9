import Mathlib.Data.Int.ConditionallyCompleteOrder
import Mathlib.Data.Nat.Find
import Mathlib.Data.Prod.Lex
import Mathlib.Order.Monotone.Basic
import Mathlib.Order.WellFounded
import Mathlib.Tactic.IntervalCases
import Mathlib.Tactic.Lemma

set_option relaxedAutoImplicit false
set_option autoImplicit false

/-!
# The Gregorian calendar

The proleptic Gregorian calendar from the year zero on. A date has a successor, every date is reached from the first one, and
so a numbering of the days that goes up by one from each date to the next counts the days, and keeps their order.

## Main definitions

* `Calendar.IsLeap`, `Calendar.daysIn` — leap years and the lengths of the months.
* `Calendar.Date` — the dates that exist, in their order.
* `Calendar.Date.next` — the next date.
* `Calendar.Date.number` — the number of days since the first date.

## Main results

* `Calendar.Date.exists_iterate` — every date is reached from the first one.
* `Calendar.Date.eq_add_number` — a numbering that goes up by one counts the days.
* `Calendar.Date.strictMono_of_next` — it keeps the order of the dates.
-/

namespace Calendar

/-- A leap year. -/
def IsLeap (year : ℕ) : Prop := year % 4 = 0 ∧ (year % 100 ≠ 0 ∨ year % 400 = 0)

instance (year : ℕ) : Decidable (IsLeap year) := inferInstanceAs (Decidable (_ ∧ _))

/-- The number of days of a month. -/
def daysIn (year month : ℕ) : ℕ :=
  if month = 2 then if IsLeap year then 29 else 28
  else if month ∈ [4, 6, 9, 11] then 30
  else 31

/-- Every month has its first 28 days. -/
lemma le_daysIn (year month : ℕ) : 28 ≤ daysIn year month := by
  unfold daysIn
  split
  · split <;> omega
  · split <;> omega

/-- A date that exists. -/
@[ext] structure Date where
  year : ℕ
  month : ℕ
  day : ℕ
  month_range : 1 ≤ month ∧ month ≤ 12
  day_range : 1 ≤ day ∧ day ≤ daysIn year month

namespace Date

/-! ## The order of the dates -/

/-- The place of a date: by year, then month, then day. -/
def key (d : Date) : ℕ ×ₗ ℕ ×ₗ ℕ := toLex (d.year, toLex (d.month, d.day))

lemma key_injective : Function.Injective key := by
  intro d e h
  simp only [key, toLex_inj, Prod.mk.injEq] at h
  exact Date.ext h.1 h.2.1 h.2.2

instance : LinearOrder Date := LinearOrder.lift' key key_injective

variable {d e : Date}

/-- The order is lexicographic. -/
lemma lt_iff : d < e ↔
    d.year < e.year ∨ d.year = e.year ∧ (d.month < e.month ∨ d.month = e.month ∧ d.day < e.day) := by
  change d.key < e.key ↔ _
  simp only [key, Prod.Lex.toLex_lt_toLex]

instance : WellFoundedLT Date := ⟨InvImage.wf key (inferInstance : WellFoundedLT (ℕ ×ₗ ℕ ×ₗ ℕ)).wf⟩

/-! ## The next date -/

/-- The first date. -/
def first : Date := ⟨0, 1, 1, by decide, by decide⟩

/-- The next date: the next day of the month, or the first day of the next month, or the first day of the next year. -/
def next (d : Date) : Date :=
  if h : d.day < daysIn d.year d.month then ⟨d.year, d.month, d.day + 1, d.month_range, by omega, h⟩
  else if h' : d.month < 12 then ⟨d.year, d.month + 1, 1, by omega, le_refl 1, le_trans (by omega) (le_daysIn _ _)⟩
  else ⟨d.year + 1, 1, 1, by omega, le_refl 1, le_trans (by omega) (le_daysIn _ _)⟩

/-- The three ways in which a date is followed by the next one. -/
lemma next_cases (d : Date) :
    (d.day < daysIn d.year d.month ∧ d.next.year = d.year ∧ d.next.month = d.month ∧ d.next.day = d.day + 1) ∨
    (d.day = daysIn d.year d.month ∧ d.month < 12 ∧ d.next.year = d.year ∧ d.next.month = d.month + 1 ∧
      d.next.day = 1) ∨
    (d.day = daysIn d.year d.month ∧ d.month = 12 ∧ d.next.year = d.year + 1 ∧ d.next.month = 1 ∧ d.next.day = 1) := by
  have hday := d.day_range
  have hmonth := d.month_range
  unfold next
  split
  · rename_i h
    exact .inl ⟨h, rfl, rfl, rfl⟩
  · split
    · rename_i h h'
      exact .inr (.inl ⟨by omega, h', rfl, rfl, rfl⟩)
    · exact .inr (.inr ⟨by omega, by omega, rfl, rfl, rfl⟩)

lemma lt_next (d : Date) : d < d.next := by
  rw [lt_iff]
  rcases next_cases d with ⟨-, hy, hm, hd⟩ | ⟨-, -, hy, hm, -⟩ | ⟨-, -, hy, -, -⟩
  all_goals omega

/-- Every date but the first one follows another. -/
lemma exists_next_eq (h : d ≠ first) : ∃ e : Date, e.next = d := by
  have hday := d.day_range
  have hmonth := d.month_range
  by_cases hd : d.day = 1
  · by_cases hm : d.month = 1
    · have hy : d.year ≠ 0 := by
        intro hy
        exact h (Date.ext hy hm hd)
      refine ⟨⟨d.year - 1, 12, 31, by decide, by decide, le_refl 31⟩, Date.ext ?_ ?_ ?_⟩
      · change d.year - 1 + 1 = d.year
        omega
      · exact hm.symm
      · exact hd.symm
    · let e : Date := ⟨d.year, d.month - 1, daysIn d.year (d.month - 1), by omega,
        le_trans (by omega) (le_daysIn _ _), le_refl _⟩
      refine ⟨e, ?_⟩
      rcases next_cases e with ⟨hlt, -⟩ | ⟨-, -, hy', hm', hd'⟩ | ⟨-, hm', -⟩
      · exact absurd hlt (lt_irrefl _)
      · refine Date.ext hy' (hm'.trans ?_) (hd'.trans hd.symm)
        change d.month - 1 + 1 = d.month
        omega
      · have : d.month - 1 = 12 := hm'
        omega
  · let e : Date := ⟨d.year, d.month, d.day - 1, d.month_range, by omega, by omega⟩
    refine ⟨e, ?_⟩
    rcases next_cases e with ⟨-, hy', hm', hd'⟩ | ⟨hlast, -⟩ | ⟨hlast, -⟩
    · refine Date.ext hy' hm' (hd'.trans ?_)
      change d.day - 1 + 1 = d.day
      omega
    all_goals
      have : d.day - 1 = daysIn d.year d.month := hlast
      omega

/-! ## Counting -/

/-- **Every date is reached from the first one.**

**Proof sketch.** Induction on the order of the dates. A date other than the first follows an earlier one. -/
theorem exists_iterate (d : Date) : ∃ n, next^[n] first = d := by
  induction d using WellFoundedLT.induction with
  | ind d ih =>
    by_cases h : d = first
    · exact ⟨0, h.symm⟩
    · obtain ⟨e, rfl⟩ := exists_next_eq h
      obtain ⟨n, hn⟩ := ih e (lt_next e)
      exact ⟨n + 1, by rw [Function.iterate_succ_apply', hn]⟩

lemma strictMono_iterate : StrictMono fun n => next^[n] first := by
  apply strictMono_nat_of_lt_succ
  intro n
  rw [Function.iterate_succ_apply']
  exact lt_next _

/-- The number of days since the first date. -/
def number (d : Date) : ℕ := Nat.find (exists_iterate d)

lemma iterate_number (d : Date) : next^[d.number] first = d := Nat.find_spec (exists_iterate d)

/-- **Counting the days.** A numbering that goes up by one from each date to the next counts the days since the first. -/
theorem eq_add_number {f : Date → ℤ} (h : ∀ d, f d.next = f d + 1) (d : Date) : f d = f first + d.number := by
  have hiterate : ∀ n : ℕ, f (next^[n] first) = f first + n := by
    intro n
    induction n with
    | zero => simp
    | succ n ih =>
      rw [Function.iterate_succ_apply', h, ih]
      push_cast
      omega
  rw [← hiterate, iterate_number]

/-- The number of a date says how many dates come before it. -/
lemma number_lt_number : d.number < e.number ↔ d < e := by
  rw [← strictMono_iterate.lt_iff_lt, iterate_number, iterate_number]

lemma number_inj : d.number = e.number ↔ d = e := by
  constructor
  · intro h
    rw [← iterate_number d, ← iterate_number e, h]
  · rintro rfl
    rfl

/-- **Keeping the order.** A numbering that goes up by one from each date to the next is strictly monotone. -/
theorem strictMono_of_next {f : Date → ℤ} (h : ∀ d, f d.next = f d + 1) : StrictMono f := by
  intro d e hlt
  have := number_lt_number.mpr hlt
  rw [eq_add_number h d, eq_add_number h e]
  omega

end Date

end Calendar
