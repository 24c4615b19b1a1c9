import Mathlib.Data.List.Induction
import Mathlib.Tactic.IntervalCases
import Misscomputer.Lib.Sha256

set_option relaxedAutoImplicit false
set_option autoImplicit false

/-!
# Texts of digits

A natural number has one text without leading zeros, and a string of bytes has one text of lowercase hexadecimal
digits. Reading is defined on every text; on these texts it undoes writing, and writing undoes it.

## Main definitions

* `Decimal.IsNumeral`, `Decimal.value` — texts without leading zeros of positive numbers, and what they say.
* `Hex.decode` — the bytes of a text of hexadecimal digits.

## Main results

* `Decimal.toDigits_value`, `Decimal.isNumeral_toDigits` — numerals and positive numbers.
* `Hex.decode_encode`, `Hex.encode_decode` — hexadecimal texts and bytes.
-/

namespace Decimal

/-- Decimal digits that do not begin with a zero. -/
def IsNumeral (s : List Char) : Prop := (∀ c ∈ s, c.isDigit = true) ∧ s ≠ [] ∧ s.head? ≠ some '0'

instance (s : List Char) : Decidable (IsNumeral s) :=
  inferInstanceAs (Decidable ((∀ c ∈ s, c.isDigit = true) ∧ s ≠ [] ∧ s.head? ≠ some '0'))

/-- What a numeral says. -/
def value (s : List Char) : ℕ := Nat.ofDigitChars 10 s 0

lemma isDigit_bounds {c : Char} (h : c.isDigit = true) : 48 ≤ c.toNat ∧ c.toNat ≤ 57 := by
  simp only [Char.isDigit, Bool.and_eq_true, decide_eq_true_eq] at h
  exact ⟨h.1, h.2⟩

lemma digitChar_sub {c : Char} (h : c.isDigit = true) : Nat.digitChar (c.toNat - 48) = c := by
  obtain ⟨hlow, hhigh⟩ := isDigit_bounds h
  have hall : ∀ n < 10, Nat.digitChar n = Char.ofNat (n + 48) := by decide
  rw [hall _ (by omega), Nat.sub_add_cancel hlow, Char.ofNat_toNat]

lemma value_concat (s : List Char) (c : Char) : value (s ++ [c]) = 10 * value s + (c.toNat - 48) := by
  rw [value, Nat.ofDigitChars_append, Nat.ofDigitChars_cons, Nat.ofDigitChars_nil]
  rfl

/-- **A numeral is the text of what it says**, which is positive. -/
theorem toDigits_value {s : List Char} (h : IsNumeral s) : Nat.toDigits 10 (value s) = s ∧ 0 < value s := by
  induction s using List.reverseRecOn with
  | nil => exact absurd rfl h.2.1
  | append_singleton s c ih =>
    obtain ⟨hdigits, -, hzero⟩ := h
    have hc : c.isDigit = true := hdigits c (List.mem_append_right _ (List.mem_singleton_self c))
    have hbounds := isDigit_bounds hc
    rcases eq_or_ne s [] with rfl | hne
    · have hpos : c.toNat ≠ 48 := by
        intro hc48
        have hof : c = '0' := by rw [← Char.ofNat_toNat c, hc48]
        exact hzero (by rw [hof]; rfl)
      have hvalue : value ([] ++ [c]) = c.toNat - 48 := by
        rw [value_concat]
        simp [value]
      rw [hvalue, Nat.toDigits_of_lt_base (by omega), digitChar_sub hc]
      exact ⟨rfl, by omega⟩
    · have hhead : (s ++ [c]).head? = s.head? := List.head?_append_of_ne_nil s hne
      obtain ⟨htext, hpos⟩ := ih ⟨fun d hd => hdigits d (List.mem_append_left _ hd), hne, by rwa [hhead] at hzero⟩
      rw [value_concat]
      have hdiv : (10 * value s + (c.toNat - 48)) / 10 = value s := by omega
      have hmod : (10 * value s + (c.toNat - 48)) % 10 = c.toNat - 48 := by omega
      rw [Nat.toDigits_of_base_le (by decide) (by omega), hdiv, hmod, htext, digitChar_sub hc]
      exact ⟨rfl, by omega⟩

lemma value_toDigits (n : ℕ) : value (Nat.toDigits 10 n) = n := Nat.ofDigitChars_ten_toDigits

/-- **The text of a positive number is a numeral.** -/
theorem isNumeral_toDigits {n : ℕ} (h : 0 < n) : IsNumeral (Nat.toDigits 10 n) := by
  refine ⟨fun c hc => Nat.isDigit_of_mem_toDigits (by decide) (by decide) hc, Nat.toDigits_ne_nil, ?_⟩
  induction n using Nat.strongRecOn with
  | ind n ih =>
    rcases lt_or_ge n 10 with hlt | hge
    · rw [Nat.toDigits_of_lt_base hlt]
      interval_cases n <;> simp at h ⊢
    · rw [Nat.toDigits_of_base_le (by decide) hge, List.head?_append_of_ne_nil _ Nat.toDigits_ne_nil]
      exact ih (n / 10) (by omega) (by omega)

end Decimal

namespace Hex

/-- A lowercase hexadecimal digit. -/
def IsDigit (c : Char) : Prop := (48 ≤ c.toNat ∧ c.toNat ≤ 57) ∨ (97 ≤ c.toNat ∧ c.toNat ≤ 102)

/-- The value of a digit. -/
def valueOf (c : Char) : ℕ := if c ≤ '9' then c.toNat - 48 else c.toNat - 87

/-- The bytes of a text; an odd last digit says nothing. -/
def decode : List Char → List ℕ
  | high :: low :: rest => (16 * valueOf high + valueOf low) :: decode rest
  | _ => []

lemma valueOf_digit : ∀ n < 16, valueOf (digit n) = n := by decide

lemma digit_valueOf {c : Char} (h : IsDigit c) : digit (valueOf c) = c ∧ valueOf c < 16 := by
  have hall : ∀ n < 128, (48 ≤ n ∧ n ≤ 57 ∨ 97 ≤ n ∧ n ≤ 102) →
      digit (valueOf (Char.ofNat n)) = Char.ofNat n ∧ valueOf (Char.ofNat n) < 16 := by decide
  have hc := hall c.toNat (by unfold IsDigit at h; omega) h
  rwa [Char.ofNat_toNat] at hc

/-- **Bytes are read back from their text.** -/
theorem decode_encode {bytes : List ℕ} (h : ∀ b ∈ bytes, b < 256) : decode (encode bytes) = bytes := by
  induction bytes with
  | nil => rfl
  | cons b bytes ih =>
    have hb : b < 256 := h b List.mem_cons_self
    have hbyte : 16 * valueOf (digit (b / 16 % 16)) + valueOf (digit (b % 16)) = b := by
      rw [valueOf_digit _ (Nat.mod_lt _ (by decide)), valueOf_digit _ (Nat.mod_lt _ (by decide))]
      omega
    rw [encode, List.flatMap_cons, ← encode, List.cons_append, List.cons_append, List.nil_append, decode, hbyte,
      ih fun a ha => h a (List.mem_cons_of_mem _ ha)]

/-- **A text of pairs of digits is the text of its bytes.** -/
theorem encode_decode : ∀ {s : List Char}, (∀ c ∈ s, IsDigit c) → s.length % 2 = 0 → encode (decode s) = s
  | [], _, _ => rfl
  | [_], _, hlength => absurd hlength (by simp)
  | high :: low :: rest, hdigits, hlength => by
    obtain ⟨hhigh, hhighlt⟩ := digit_valueOf (hdigits high List.mem_cons_self)
    obtain ⟨hlow, hlowlt⟩ := digit_valueOf (hdigits low (List.mem_cons_of_mem _ List.mem_cons_self))
    have hrest : encode (decode rest) = rest :=
      encode_decode (fun c hc => hdigits c (List.mem_cons_of_mem _ (List.mem_cons_of_mem _ hc)))
        (by simp only [List.length_cons] at hlength; omega)
    have hdiv : (16 * valueOf high + valueOf low) / 16 % 16 = valueOf high := by omega
    have hmod : (16 * valueOf high + valueOf low) % 16 = valueOf low := by omega
    rw [decode, encode, List.flatMap_cons, ← encode, hrest, hdiv, hmod, hhigh, hlow]
    rfl

lemma length_decode : ∀ s : List Char, (decode s).length = s.length / 2
  | [] => rfl
  | [_] => by simp [decode]
  | _ :: _ :: rest => by
    rw [decode, List.length_cons, length_decode rest, List.length_cons, List.length_cons]
    omega

lemma decode_lt : ∀ {s : List Char}, (∀ c ∈ s, IsDigit c) → ∀ b ∈ decode s, b < 256
  | [], _ => List.forall_mem_nil _
  | [_], _ => List.forall_mem_nil _
  | high :: low :: rest, hdigits => by
    have hhigh := (digit_valueOf (hdigits high List.mem_cons_self)).2
    have hlow := (digit_valueOf (hdigits low (List.mem_cons_of_mem _ List.mem_cons_self))).2
    rw [decode, List.forall_mem_cons]
    exact ⟨by omega, decode_lt fun c hc => hdigits c (List.mem_cons_of_mem _ (List.mem_cons_of_mem _ hc))⟩

lemma isDigit_encode (bytes : List ℕ) : ∀ c ∈ encode bytes, IsDigit c := by
  have hall : ∀ n < 16, IsDigit (digit n) := by
    unfold IsDigit
    decide
  intro c hc
  obtain ⟨n, -, hc⟩ := List.mem_flatMap.mp hc
  simp only [List.mem_cons, List.not_mem_nil, or_false] at hc
  rcases hc with rfl | rfl <;> exact hall _ (Nat.mod_lt _ (by decide))

end Hex
