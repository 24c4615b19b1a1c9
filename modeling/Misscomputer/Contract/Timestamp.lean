import Mathlib.Data.Int.Notation
import Mathlib.Data.Nat.Notation
import Mathlib.Tactic.Lemma

set_option relaxedAutoImplicit false
set_option autoImplicit false

/-!
# Timestamps

Go's RFC 3339 timestamps with nanoseconds, as the subnet reads them, and the epochs of a validator.

## Main definitions

* `Contract.civilDay` — the number of a day of the proleptic Gregorian calendar.
* `Contract.rfc3339nanoInstant` — the instant of a timestamp, in nanoseconds.
* `Contract.secondsTimestamp` — the whole-second UTC timestamps.
* `Contract.timestampEpochSeconds`, `Contract.epochIndexOf` — Unix seconds and the epoch they lie in.

## References

* `src/misscomputer_subnet/protocol.py` (`_rfc3339nano_instant`)
* `src/misscomputer_subnet/organic_probe.py` (`timestamp_epoch_seconds`, `epoch_index_of`)
-/

namespace Misscomputer

namespace Contract

/-- `_is_leap_year`. -/
def isLeapYear (year : ℤ) : Bool := year % 4 = 0 && (year % 100 != 0 || year % 400 = 0)

/-- `_MONTH_DAYS`. -/
def monthDays : List ℤ := [0, 31, 28, 31, 30, 31, 30, 31, 31, 30, 31, 30, 31]

/-- The days of a month, with the leap day. -/
def daysOfMonth (year : ℤ) (month : ℕ) : ℤ :=
  monthDays.getD month 0 + if month = 2 ∧ isLeapYear year then 1 else 0

/-- `_civil_day`. -/
def civilDay (year month day : ℤ) : ℤ :=
  let adjustedYear := year - if month ≤ 2 then 1 else 0
  let era := adjustedYear / 400
  let yearOfEra := adjustedYear - era * 400
  let shiftedMonth := month + if 2 < month then -3 else 9
  let dayOfYear := (153 * shiftedMonth + 2) / 5 + day - 1
  era * 146097 + yearOfEra * 365 + yearOfEra / 4 - yearOfEra / 100 + dayOfYear

/-- An ASCII digit. -/
def asciiDigit (c : Char) : Bool := '0' ≤ c && c ≤ '9'

/-- The number that a list of digits writes. -/
def number (digits : List Char) : ℕ := digits.foldl (fun n c => 10 * n + (c.toNat - 48)) 0

/-- The fraction of a timestamp, when it has one, and what follows. -/
def scanFraction : List Char → Option (List Char × List Char)
  | '.' :: rest =>
    let fraction := rest.takeWhile asciiDigit
    if 1 ≤ fraction.length ∧ fraction.length ≤ 9 then some (fraction, rest.dropWhile asciiDigit) else none
  | rest => some ([], rest)

/-- The offset of a zone from UTC, in seconds. -/
def zoneOffset : List Char → Option ℤ
  | ['Z'] => some 0
  | [sign, h₁, h₂, ':', m₁, m₂] =>
    if (sign = '+' ∨ sign = '-') ∧ [h₁, h₂, m₁, m₂].all asciiDigit then
      let hours := number [h₁, h₂]
      let minutes := number [m₁, m₂]
      let offset : ℤ := (hours * 60 + minutes) * 60
      if hours > 23 ∨ minutes > 59 ∨ offset = 0 then none
      else some (if sign = '-' then -offset else offset)
    else none
  | _ => none

/-- The day and the time of day, in seconds from the calendar's own origin. -/
def civilSeconds (year month day hour minute second : ℕ) : Option ℤ :=
  if month < 1 ∨ month > 12 then none
  else if day < 1 ∨ day > daysOfMonth year month then none
  else if hour > 23 ∨ minute > 59 ∨ second > 59 then none
  else some (civilDay year month day * 86400 + hour * 3600 + minute * 60 + second)

/-- `_rfc3339nano_instant`, on characters. -/
def instantOf : List Char → Option ℤ
  | y₁ :: y₂ :: y₃ :: y₄ :: '-' :: m₁ :: m₂ :: '-' :: d₁ :: d₂ :: 'T' :: h₁ :: h₂ :: ':' :: n₁ :: n₂ ::
      ':' :: s₁ :: s₂ :: rest =>
    if [y₁, y₂, y₃, y₄, m₁, m₂, d₁, d₂, h₁, h₂, n₁, n₂, s₁, s₂].all asciiDigit then do
      let (fraction, zone) ← scanFraction rest
      let seconds ← civilSeconds (number [y₁, y₂, y₃, y₄]) (number [m₁, m₂]) (number [d₁, d₂])
        (number [h₁, h₂]) (number [n₁, n₂]) (number [s₁, s₂])
      if fraction.getLast? = some '0' then none
      else do
        let offset ← zoneOffset zone
        some ((seconds - offset) * 1000000000 +
          number (fraction ++ List.replicate (9 - fraction.length) '0'))
    else none
  | _ => none

/-- `_rfc3339nano_instant`: `none` where the source raises. -/
def rfc3339nanoInstant (value : String) : Option ℤ := instantOf value.toList

/-- A whole-second UTC timestamp, by its characters. -/
def secondsPattern (s : List Char) : Bool := s.length = 20 && s.getLast? = some 'Z'

/-- `SecondsTimestamp`, and `issued_at` of a probe authorization. -/
def secondsTimestamp (value : String) : Bool :=
  secondsPattern value.toList && (rfc3339nanoInstant value).isSome

/-- `GoTimestamp` of an attestation, which has to end in `Z`. -/
def utcTimestamp (value : String) : Bool :=
  value.toList.length ≤ 64 && value.toList.getLast? = some 'Z' && (rfc3339nanoInstant value).isSome

/-- `_UNIX_EPOCH_NANOS`. -/
def unixEpochNanos : ℤ := civilDay 1970 1 1 * 86400 * 1000000000

example : rfc3339nanoInstant "1970-01-01T00:00:00Z" = some unixEpochNanos := by decide

/-- `timestamp_epoch_seconds`. -/
def timestampEpochSeconds (value : String) : Option ℤ :=
  (rfc3339nanoInstant value).map fun nanos => (nanos - unixEpochNanos) / 1000000000

/-- `epoch_index_of`. -/
def epochIndexOf (unixSeconds epochSeconds : ℤ) : ℤ := unixSeconds / epochSeconds

lemma timestampEpochSeconds_of_seconds {value : String} (h : secondsTimestamp value = true) :
    ∃ seconds, timestampEpochSeconds value = some seconds := by
  rw [secondsTimestamp, Bool.and_eq_true, Option.isSome_iff_exists] at h
  obtain ⟨-, nanos, hnanos⟩ := h
  exact ⟨_, by rw [timestampEpochSeconds, hnanos, Option.map_some]⟩

end Contract

end Misscomputer
