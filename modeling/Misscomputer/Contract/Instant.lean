import Misscomputer.Contract.Timestamp
import Misscomputer.Lib.Calendar
import Mathlib.Data.Char
import Mathlib.Data.List.DropRight
import Mathlib.Data.List.Lex
import Mathlib.Tactic.Ring

set_option relaxedAutoImplicit false
set_option autoImplicit false

/-!
# Timestamps as instants

The day number of a timestamp counts the days of the calendar, and so the number that a timestamp is read as orders the
timestamps as the instants they denote.

## Main definitions

* `Contract.Reading` — what a timestamp says: a date, a time of day, a fraction of a second and an offset from UTC.
* `Contract.Reads` — a text says this.
* `Contract.Reading.utcNanos` — the nanoseconds between the start of the calendar and the instant, day by day.

## Main results

* `Contract.civilDay_next` — the day number of the next date is the next number.
* `Contract.instantOf_eq_some` — the texts that are read, and the number each is read as.
* `Contract.timestamps_order_as_instants` — the numbers order the timestamps as the instants they denote.

## References

* `src/misscomputer_subnet/protocol.py` (`_is_leap_year`, `_civil_day`, `_rfc3339nano_instant`)
-/

namespace Misscomputer

namespace Contract

open Calendar (Date IsLeap daysIn)

/-! ## Days -/

lemma isLeapYear_iff (year : ℕ) : isLeapYear year = true ↔ IsLeap year := by
  simp only [isLeapYear, IsLeap, Bool.and_eq_true, Bool.or_eq_true, decide_eq_true_eq, bne_iff_ne]
  omega

/-- The table of the months, with the leap day, is the calendar's. -/
lemma daysOfMonth_eq {year month : ℕ} (h : 1 ≤ month ∧ month ≤ 12) : daysOfMonth year month = daysIn year month := by
  obtain ⟨hlow, hhigh⟩ := h
  by_cases hleap : IsLeap year
  · have hbool := (isLeapYear_iff year).mpr hleap
    interval_cases month <;> simp [daysOfMonth, monthDays, daysIn, hbool, hleap]
  · have hbool : isLeapYear year = false := by
      rw [← Bool.not_eq_true, isLeapYear_iff]
      exact hleap
    interval_cases month <;> simp [daysOfMonth, monthDays, daysIn, hbool, hleap]

/-- The days before a year that begins in March. -/
def daysBefore (year : ℤ) : ℤ :=
  let era := year / 400
  let yearOfEra := year - era * 400
  era * 146097 + yearOfEra * 365 + yearOfEra / 4 - yearOfEra / 100

/-- Such a year has a leap day at its end when the next year is a leap year. -/
lemma daysBefore_succ (year : ℕ) :
    daysBefore year = daysBefore (year - 1) + 365 + if IsLeap year then 1 else 0 := by
  by_cases h : IsLeap year
  · rw [if_pos h]
    simp only [IsLeap] at h
    simp only [daysBefore]
    omega
  · rw [if_neg h]
    simp only [IsLeap] at h
    simp only [daysBefore]
    omega

/-- The day number of a date. -/
def dayNumber (d : Date) : ℤ := civilDay d.year d.month d.day

/-- The day number, by the days before the year and the days before the month. -/
lemma civilDay_eq (year month day : ℤ) : civilDay year month day =
    daysBefore (year - if month ≤ 2 then 1 else 0) + (153 * (month + if 2 < month then -3 else 9) + 2) / 5 + day - 1 := by
  rw [civilDay, daysBefore]
  omega

/-- **The next day has the next number**, across the ends of months and years.

**Proof sketch.** Inside a month the day is a summand. At the end of a month the lengths of the months decide, and at the end
of February the leap day, which is where the year of the formula ends. -/
theorem civilDay_next (d : Date) : dayNumber d.next = dayNumber d + 1 := by
  have hmonth := d.month_range
  have hleap := daysBefore_succ d.year
  rw [dayNumber, dayNumber, civilDay_eq, civilDay_eq]
  rcases d.next_cases with ⟨-, hy, hm, hd⟩ | ⟨hlast, hlt, hy, hm, hd⟩ | ⟨hlast, hdec, hy, hm, hd⟩
  · rw [hy, hm, hd]
    omega
  · have hmonths : ∀ month : ℕ, 1 ≤ month → month < 12 →
        daysBefore (d.year - if ((month + 1 : ℕ) : ℤ) ≤ 2 then 1 else 0) +
            (153 * (((month + 1 : ℕ) : ℤ) + if 2 < ((month + 1 : ℕ) : ℤ) then -3 else 9) + 2) / 5 =
          daysBefore (d.year - if (month : ℤ) ≤ 2 then 1 else 0) +
            (153 * ((month : ℤ) + if 2 < (month : ℤ) then -3 else 9) + 2) / 5 + daysIn d.year month := by
      intro month hlow hhigh
      unfold daysIn
      interval_cases month
      all_goals simp
      all_goals first
        | omega
        | (rw [hleap]
           split <;> omega)
    have := hmonths d.month hmonth.1 hlt
    rw [hy, hm, hd, hlast]
    omega
  · rw [hy, hm, hd, hlast, hdec]
    simp [daysIn]
    omega

/-- The day numbers are in the order of the dates. -/
lemma strictMono_dayNumber : StrictMono dayNumber := Date.strictMono_of_next civilDay_next

/-! ## Digits -/

/-- A text of so many digits. -/
def IsDigits (n : ℕ) (s : List Char) : Prop := s.length = n ∧ ∀ c ∈ s, asciiDigit c = true

lemma number_cons (c : Char) (s : List Char) : number (c :: s) = (c.toNat - 48) * 10 ^ s.length + number s := by
  have hfold : ∀ (s : List Char) (k : ℕ), s.foldl (fun n c => 10 * n + (c.toNat - 48)) k = k * 10 ^ s.length + number s := by
    intro s
    induction s with
    | nil => simp [number]
    | cons d s ih =>
      intro k
      rw [number, List.foldl_cons, List.foldl_cons, ih, ih, List.length_cons, pow_succ]
      ring
  rw [number, List.foldl_cons, hfold]
  simp

lemma digit_range {c : Char} (h : asciiDigit c = true) : 48 ≤ c.toNat ∧ c.toNat ≤ 57 := by
  rw [asciiDigit, Bool.and_eq_true, decide_eq_true_eq, decide_eq_true_eq] at h
  exact h

lemma number_lt_pow {n : ℕ} {s : List Char} (h : IsDigits n s) : number s < 10 ^ n := by
  obtain ⟨rfl, hs⟩ := h
  induction s with
  | nil => simp [number]
  | cons c s ih =>
    obtain ⟨hc, hs⟩ := List.forall_mem_cons.mp hs
    have hrange := digit_range hc
    have hrest := ih hs
    have hdigit : (c.toNat - 48) * 10 ^ s.length ≤ 9 * 10 ^ s.length := Nat.mul_le_mul_right _ (by omega)
    rw [number_cons, List.length_cons, pow_succ]
    omega

/-- **Texts of the same number of digits are ordered as their numbers.** -/
lemma number_lt_number {n : ℕ} {s t : List Char} (hs : IsDigits n s) (ht : IsDigits n t) :
    number s < number t ↔ s < t := by
  induction n generalizing s t with
  | zero =>
    rw [List.length_eq_zero_iff.mp hs.1, List.length_eq_zero_iff.mp ht.1]
    simp
  | succ n ih =>
    obtain ⟨c, s, rfl⟩ := List.exists_cons_of_length_eq_add_one hs.1
    obtain ⟨d, t, rfl⟩ := List.exists_cons_of_length_eq_add_one ht.1
    obtain ⟨hc, hs'⟩ := List.forall_mem_cons.mp hs.2
    obtain ⟨hd, ht'⟩ := List.forall_mem_cons.mp ht.2
    have hslen : s.length = n := by simpa using hs.1
    have htlen : t.length = n := by simpa using ht.1
    have hsnum := number_lt_pow ⟨hslen, hs'⟩
    have htnum := number_lt_pow ⟨htlen, ht'⟩
    have hcrange := digit_range hc
    have hdrange := digit_range hd
    have hchar : c < d ↔ c.toNat < d.toNat := Iff.rfl
    rw [number_cons, number_cons, List.cons_lt_cons_iff, ← ih ⟨hslen, hs'⟩ ⟨htlen, ht'⟩, hslen, htlen, hchar]
    rcases lt_trichotomy c.toNat d.toNat with hlt | heq | hgt
    · have hmul : (c.toNat - 48 + 1) * 10 ^ n ≤ (d.toNat - 48) * 10 ^ n := Nat.mul_le_mul_right _ (by omega)
      rw [Nat.add_mul] at hmul
      exact iff_of_true (by omega) (.inl hlt)
    · obtain rfl : c = d := Char.toNat_inj.mp heq
      simp
    · have hne : c ≠ d := by
        rintro rfl
        omega
      have hmul : (d.toNat - 48 + 1) * 10 ^ n ≤ (c.toNat - 48) * 10 ^ n := Nat.mul_le_mul_right _ (by omega)
      rw [Nat.add_mul] at hmul
      refine iff_of_false (by omega) ?_
      rintro (h | ⟨h, -⟩)
      · omega
      · exact hne h

lemma number_inj {n : ℕ} {s t : List Char} (hs : IsDigits n s) (ht : IsDigits n t) (h : number s = number t) : s = t := by
  have hst := number_lt_number hs ht
  have hts := number_lt_number ht hs
  rcases lt_trichotomy s t with hlt | heq | hgt
  · have := hst.mpr hlt
    omega
  · exact heq
  · have := hts.mpr hgt
    omega

/-! ## Fractions -/

/-- The fraction of a second, to nine digits. -/
def padded (fraction : List Char) : List Char := fraction ++ List.replicate (9 - fraction.length) '0'

/-- A fraction as it is written: up to nine digits, the last of which is not zero. -/
structure IsFraction (fraction : List Char) : Prop where
  length : fraction.length ≤ 9
  digits : ∀ c ∈ fraction, asciiDigit c = true
  canonical : fraction.getLast? ≠ some '0'

lemma isDigits_padded {fraction : List Char} (h : IsFraction fraction) : IsDigits 9 (padded fraction) := by
  have hlength := h.length
  constructor
  · rw [padded, List.length_append, List.length_replicate]
    omega
  · intro c hc
    rcases List.mem_append.mp hc with hc | hc
    · exact h.digits c hc
    · rw [List.eq_of_mem_replicate hc]
      decide

/-- The zeros at the end of a padded fraction are the padding. -/
lemma padded_inj {a b : List Char} (ha : IsFraction a) (hb : IsFraction b) (h : padded a = padded b) : a = b := by
  have hstrip : ∀ (k : ℕ) {s : List Char}, s.getLast? ≠ some '0' →
      (s ++ List.replicate k '0').rdropWhile (· = '0') = s := by
    intro k s hs
    induction k with
    | zero =>
      rw [List.replicate_zero, List.append_nil, List.rdropWhile_eq_self_iff]
      intro hne
      simpa [List.getLast?_eq_some_getLast hne] using hs
    | succ k ih =>
      rw [List.replicate_succ', ← List.append_assoc, List.rdropWhile_concat_pos _ _ _ (by simp)]
      exact ih
  rw [← hstrip (9 - a.length) ha.canonical, ← hstrip (9 - b.length) hb.canonical]
  exact congrArg _ h

/-! ## Readings -/

/-- What a timestamp says. -/
structure Reading where
  date : Date
  hour : ℕ
  minute : ℕ
  second : ℕ
  fraction : List Char
  offset : ℤ

namespace Reading

/-- The seconds since midnight. -/
def timeOfDay (r : Reading) : ℤ := r.hour * 3600 + r.minute * 60 + r.second

/-- The nanoseconds between the start of the calendar in UTC and the instant, counting the days one by one. -/
def utcNanos (r : Reading) : ℤ :=
  (r.date.number * 86400 + r.timeOfDay - r.offset) * 1000000000 + number (padded r.fraction)

/-- The date, the time of day, and the fraction padded to nine digits. -/
def key (r : Reading) : Date ×ₗ (ℕ ×ₗ ℕ ×ₗ ℕ) ×ₗ List Char :=
  toLex (r.date, toLex (toLex (r.hour, toLex (r.minute, r.second)), padded r.fraction))

end Reading

/-- A fraction as it stands in a timestamp. -/
def fractionText (fraction : List Char) : List Char := if fraction = [] then [] else '.' :: fraction

/-- The text says what the reading says. -/
structure Reads (s : List Char) (r : Reading) : Prop where
  fields : ∃ year month day hour minute second zone : List Char,
    s = year ++ '-' :: month ++ '-' :: day ++ 'T' :: hour ++ ':' :: minute ++ ':' :: second ++
      fractionText r.fraction ++ zone ∧
    (IsDigits 4 year ∧ number year = r.date.year) ∧ (IsDigits 2 month ∧ number month = r.date.month) ∧
    (IsDigits 2 day ∧ number day = r.date.day) ∧ (IsDigits 2 hour ∧ number hour = r.hour) ∧
    (IsDigits 2 minute ∧ number minute = r.minute) ∧ (IsDigits 2 second ∧ number second = r.second) ∧
    zoneOffset zone = some r.offset
  hour_range : r.hour ≤ 23
  minute_range : r.minute ≤ 59
  second_range : r.second ≤ 59
  fraction : IsFraction r.fraction

lemma scanFraction_eq_some {rest fraction zone : List Char} (h : scanFraction rest = some (fraction, zone)) :
    rest = fractionText fraction ++ zone ∧ fraction.length ≤ 9 ∧ ∀ c ∈ fraction, asciiDigit c = true := by
  unfold scanFraction at h
  split at h
  · rename_i tail
    simp only [Option.ite_none_right_eq_some, Option.some.injEq, Prod.mk.injEq] at h
    obtain ⟨hlength, rfl, rfl⟩ := h
    refine ⟨?_, hlength.2, fun c hc => List.mem_takeWhile_imp hc⟩
    have hne : tail.takeWhile asciiDigit ≠ [] := List.ne_nil_of_length_pos hlength.1
    rw [fractionText, if_neg hne, List.cons_append, List.takeWhile_append_dropWhile]
  · obtain ⟨rfl, rfl⟩ := Prod.mk.inj (Option.some.inj h)
    exact ⟨rfl, Nat.zero_le _, by simp⟩

lemma civilSeconds_eq_some {year month day hour minute second : ℕ} {n : ℤ}
    (h : civilSeconds year month day hour minute second = some n) :
    ∃ d : Date, d.year = year ∧ d.month = month ∧ d.day = day ∧ hour ≤ 23 ∧ minute ≤ 59 ∧ second ≤ 59 ∧
      n = dayNumber d * 86400 + hour * 3600 + minute * 60 + second := by
  unfold civilSeconds at h
  split at h
  · cases h
  · rename_i hmonth
    split at h
    · cases h
    · rename_i hday
      split at h
      · cases h
      · rename_i htime
        have hmonth' : 1 ≤ month ∧ month ≤ 12 := by omega
        rw [daysOfMonth_eq hmonth'] at hday
        exact ⟨⟨year, month, day, hmonth', by omega⟩, rfl, rfl, rfl, by omega, by omega, by omega, (Option.some.inj h).symm⟩

/-- **What is read.** A text that is read says something, and is read as the number of it. -/
lemma exists_reading {s : List Char} {n : ℤ} (h : instantOf s = some n) :
    ∃ r, Reads s r ∧ n = (dayNumber r.date * 86400 + r.timeOfDay - r.offset) * 1000000000 + number (padded r.fraction) := by
  unfold instantOf at h
  split at h
  · rename_i y₁ y₂ y₃ y₄ m₁ m₂ d₁ d₂ h₁ h₂ n₁ n₂ s₁ s₂ rest
    split at h
    · rename_i hdigits
      simp only [Option.bind_eq_bind, Option.bind_eq_some_iff] at h
      obtain ⟨⟨fraction, zone⟩, hfraction, seconds, hseconds, h⟩ := h
      split at h
      · cases h
      · rename_i hcanonical
        obtain ⟨offset, hoffset, hn⟩ := Option.bind_eq_some_iff.mp h
        obtain ⟨rfl, hlength, hfdigits⟩ := scanFraction_eq_some hfraction
        obtain ⟨d, hyear, hmonth, hday, hhour, hminute, hsecond, rfl⟩ := civilSeconds_eq_some hseconds
        simp only [List.all_cons, List.all_nil, Bool.and_true, Bool.and_eq_true] at hdigits
        obtain ⟨hy₁, hy₂, hy₃, hy₄, hm₁, hm₂, hd₁, hd₂, hh₁, hh₂, hn₁, hn₂, hs₁, hs₂⟩ := hdigits
        refine ⟨⟨d, number [h₁, h₂], number [n₁, n₂], number [s₁, s₂], fraction, offset⟩, ⟨?_, hhour, hminute, hsecond,
          hlength, hfdigits, hcanonical⟩, ?_⟩
        · refine ⟨[y₁, y₂, y₃, y₄], [m₁, m₂], [d₁, d₂], [h₁, h₂], [n₁, n₂], [s₁, s₂], zone, by simp, ?_, ?_, ?_, ?_, ?_, ?_,
            hoffset⟩
          · exact ⟨⟨rfl, by simp [hy₁, hy₂, hy₃, hy₄]⟩, hyear.symm⟩
          · exact ⟨⟨rfl, by simp [hm₁, hm₂]⟩, hmonth.symm⟩
          · exact ⟨⟨rfl, by simp [hd₁, hd₂]⟩, hday.symm⟩
          · exact ⟨⟨rfl, by simp [hh₁, hh₂]⟩, rfl⟩
          · exact ⟨⟨rfl, by simp [hn₁, hn₂]⟩, rfl⟩
          · exact ⟨⟨rfl, by simp [hs₁, hs₂]⟩, rfl⟩
        · have hvalue := (Option.some.inj hn).symm
          rw [hvalue, padded, Reading.timeOfDay]
          ring
    · cases h
  · cases h

/-! ## The order of the instants -/

/-- A zone ends in `Z` when it is `Z`, and then it is UTC. -/
lemma zone_of_utc {zone : List Char} {offset : ℤ} (h : zoneOffset zone = some offset) (hlast : zone.getLast? = some 'Z') :
    zone = ['Z'] ∧ offset = 0 := by
  unfold zoneOffset at h
  split at h
  · exact ⟨rfl, (Option.some.inj h).symm⟩
  · rename_i sign h₁ h₂ m₁ m₂
    have hz : m₂ = 'Z' := by simpa using hlast
    split at h
    · rename_i hdigits
      rw [hz] at hdigits
      simp [asciiDigit] at hdigits
    · cases h
  · cases h

lemma zone_ne_nil {zone : List Char} {offset : ℤ} (h : zoneOffset zone = some offset) : zone ≠ [] := by
  rintro rfl
  cases h

section Order

variable {s t : List Char} {r q : Reading}

/-- A timestamp that ends in `Z` says no offset. -/
lemma Reads.offset_of_utc (hs : Reads s r) (hlast : s.getLast? = some 'Z') : r.offset = 0 := by
  obtain ⟨year, month, day, hour, minute, second, zone, rfl, -, -, -, -, -, -, hzone⟩ := hs.fields
  rw [List.getLast?_append_of_ne_nil _ (zone_ne_nil hzone)] at hlast
  exact (zone_of_utc hzone hlast).2

/-- A timestamp that ends in `Z` is determined by what it says. -/
lemma Reads.inj (hs : Reads s r) (ht : Reads t r) (hslast : s.getLast? = some 'Z') (htlast : t.getLast? = some 'Z') :
    s = t := by
  obtain ⟨year, month, day, hour, minute, second, zone, rfl, hy, hmo, hd, hh, hmi, hse, hzone⟩ := hs.fields
  obtain ⟨year', month', day', hour', minute', second', zone', rfl, hy', hmo', hd', hh', hmi', hse', hzone'⟩ := ht.fields
  rw [List.getLast?_append_of_ne_nil _ (zone_ne_nil hzone)] at hslast
  rw [List.getLast?_append_of_ne_nil _ (zone_ne_nil hzone')] at htlast
  rw [(zone_of_utc hzone hslast).1, (zone_of_utc hzone' htlast).1, number_inj hy.1 hy'.1 (hy.2.trans hy'.2.symm),
    number_inj hmo.1 hmo'.1 (hmo.2.trans hmo'.2.symm), number_inj hd.1 hd'.1 (hd.2.trans hd'.2.symm),
    number_inj hh.1 hh'.1 (hh.2.trans hh'.2.symm), number_inj hmi.1 hmi'.1 (hmi.2.trans hmi'.2.symm),
    number_inj hse.1 hse'.1 (hse.2.trans hse'.2.symm)]

/-- Instants in UTC are ordered by date, time of day and fraction. -/
lemma Reads.utcNanos_lt (hs : Reads s r) (ht : Reads t q) (hr : r.offset = 0) (hq : q.offset = 0) :
    r.utcNanos < q.utcNanos ↔ r.key < q.key := by
  have hfr := number_lt_pow (isDigits_padded hs.fraction)
  have hfq := number_lt_pow (isDigits_padded ht.fraction)
  have hfraction := number_lt_number (isDigits_padded hs.fraction) (isDigits_padded ht.fraction)
  have hdate : r.date = q.date ↔ r.date.number = q.date.number := Date.number_inj.symm
  have := hs.hour_range
  have := hs.minute_range
  have := hs.second_range
  have := ht.hour_range
  have := ht.minute_range
  have := ht.second_range
  simp only [Reading.key, Prod.Lex.toLex_lt_toLex, toLex_inj, Prod.mk.injEq, ← hfraction, hdate,
    ← Date.number_lt_number, Reading.utcNanos, Reading.timeOfDay, hr, hq]
  omega

/-- Equal instants in UTC say the same. -/
lemma Reads.eq_of_utcNanos (hs : Reads s r) (ht : Reads t q) (hr : r.offset = 0) (hq : q.offset = 0)
    (h : r.utcNanos = q.utcNanos) : r = q := by
  have hfr := number_lt_pow (isDigits_padded hs.fraction)
  have hfq := number_lt_pow (isDigits_padded ht.fraction)
  have := hs.hour_range
  have := hs.minute_range
  have := hs.second_range
  have := ht.hour_range
  have := ht.minute_range
  have := ht.second_range
  simp only [Reading.utcNanos, Reading.timeOfDay, hr, hq] at h
  have hparts : r.date.number = q.date.number ∧ r.hour = q.hour ∧ r.minute = q.minute ∧ r.second = q.second ∧
      number (padded r.fraction) = number (padded q.fraction) := by omega
  obtain ⟨hdate, hhour, hminute, hsecond, hnumber⟩ := hparts
  have hfraction := padded_inj hs.fraction ht.fraction
    (number_inj (isDigits_padded hs.fraction) (isDigits_padded ht.fraction) hnumber)
  cases r
  cases q
  simp only [Reading.mk.injEq]
  exact ⟨Date.number_inj.mp hdate, hhour, hminute, hsecond, hfraction, hr.trans hq.symm⟩

/-- The number that a timestamp is read as is its instant, counted from another origin. -/
lemma exists_utcNanos {s : List Char} {n : ℤ} (h : instantOf s = some n) :
    ∃ r, Reads s r ∧ n = r.utcNanos + dayNumber Date.first * 86400 * 1000000000 := by
  obtain ⟨r, hr, rfl⟩ := exists_reading h
  refine ⟨r, hr, ?_⟩
  rw [Date.eq_add_number civilDay_next r.date, Reading.utcNanos]
  ring

end Order

/-- **Timestamps order as instants.** The day number of the next date is the next number, and so the day numbers are in the
order of the dates. Two timestamps are read as the same number exactly when they denote the same instant, whatever their
offsets. Of two timestamps that end in `Z`, the one that is earlier by date, time of day and padded fraction is read as the
smaller number, and equal numbers come from equal texts.

**Proof sketch.** The number of a timestamp is its instant, counted from another origin, since the day numbers count the
days. In UTC the instant is the date, the time of day and the fraction in one number. -/
theorem timestamps_order_as_instants :
    (∀ d : Date, civilDay d.next.year d.next.month d.next.day = civilDay d.year d.month d.day + 1) ∧
    (StrictMono fun d : Date => civilDay d.year d.month d.day) ∧
    ∀ (s t : String) (m n : ℤ), rfc3339nanoInstant s = some m → rfc3339nanoInstant t = some n →
      ∃ r q, Reads s.toList r ∧ Reads t.toList q ∧ (m = n ↔ r.utcNanos = q.utcNanos) ∧
        (s.toList.getLast? = some 'Z' → t.toList.getLast? = some 'Z' →
          (m < n ↔ r.key < q.key) ∧ (m = n → s = t)) := by
  refine ⟨civilDay_next, strictMono_dayNumber, fun s t m n hs ht => ?_⟩
  obtain ⟨r, hr, rfl⟩ := exists_utcNanos hs
  obtain ⟨q, hq, rfl⟩ := exists_utcNanos ht
  refine ⟨r, q, hr, hq, by omega, fun hslast htlast => ?_⟩
  have hroffset := hr.offset_of_utc hslast
  have hqoffset := hq.offset_of_utc htlast
  have hlt := hr.utcNanos_lt hq hroffset hqoffset
  refine ⟨?_, fun heq => ?_⟩
  · rw [← hlt]
    omega
  · obtain rfl := hr.eq_of_utcNanos hq hroffset hqoffset (by omega)
    exact String.toList_inj.mp (hr.inj hq hslast htlast)

end Contract

end Misscomputer
