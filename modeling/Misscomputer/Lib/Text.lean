import Mathlib.Data.List.Basic
import Mathlib.Tactic.Lemma
import Mathlib.Tactic.IntervalCases
import Mathlib.Order.Basic
import Mathlib.Data.List.Lex
import Mathlib.Data.Char

set_option relaxedAutoImplicit false
set_option autoImplicit false

/-!
# Text as characters and as bytes

A program that counts and compares bytes and one that counts and compares characters see a text
differently, unless it is ASCII. A text is a list of characters; `Text.bytes` is its UTF-8 form.

## Main definitions

* `Text.bytes` — the UTF-8 bytes of a text.
* `Text.IsAscii` — every character is below `0x80`.
* `Text.afterLast` — the part of a text after the last occurrence of a letter.

## Main results

* `Text.bytes_eq_map` — the bytes of an ASCII text are its characters, one byte each.
* `Text.exists_high_byte` — a text that is not ASCII has a byte from `0x80` on.
* `Text.forall_ascii` — a fact about ASCII characters is a fact about 128 of them.
* `Text.splitOn_map`, `Text.count_map`, `Text.afterLast_map` — splitting, counting and cutting commute
  with a renaming of the letters that keeps the separator apart.
* `Text.bytes_lt_bytes` — ASCII texts are in the order of their bytes.
-/

namespace Text

/-- What holds of every character of a text is decided on the text, not over all characters there are. -/
instance (priority := 1100) decidableForallMem (p : Char → Prop) [DecidablePred p] (s : List Char) :
    Decidable (∀ c ∈ s, p c) := List.decidableBAll p s

/-- The UTF-8 bytes of a text. -/
def bytes (s : List Char) : List UInt8 := s.flatMap String.utf8EncodeChar

/-- `str.isascii`. -/
def IsAscii (s : List Char) : Prop := ∀ c ∈ s, c.toNat < 128

instance (s : List Char) : Decidable (IsAscii s) :=
  inferInstanceAs (Decidable (∀ c ∈ s, c.toNat < 128))

@[simp] lemma isAscii_nil : IsAscii [] := by simp [IsAscii]

@[simp] lemma isAscii_cons {c : Char} {s : List Char} :
    IsAscii (c :: s) ↔ c.toNat < 128 ∧ IsAscii s := by
  simp [IsAscii]

@[simp] lemma isAscii_append {s t : List Char} : IsAscii (s ++ t) ↔ IsAscii s ∧ IsAscii t := by
  simp only [IsAscii, List.mem_append, or_imp, forall_and]

/-! ## One character -/

/-- A property of every ASCII character is one of the 128 characters below `0x80`. -/
lemma forall_ascii {P : Char → Prop} (h : ∀ n < 128, P (Char.ofNat n)) (c : Char)
    (hc : c.toNat < 128) : P c := by
  have := h c.toNat hc
  rwa [Char.ofNat_toNat] at this

lemma utf8EncodeChar_of_ascii {c : Char} (hc : c.toNat < 128) :
    String.utf8EncodeChar c = [c.toUInt8] := by
  have hsize : c.utf8Size = 1 := by
    rw [Char.utf8Size_eq_one_iff, UInt32.le_iff_toNat_le]
    have hc' : c.val.toNat < 128 := hc
    have : (127 : UInt32).toNat = 127 := rfl
    omega
  rw [String.utf8EncodeChar_eq_singleton hsize, Char.toUInt8_val]

/-- The letters of ASCII texts stay apart as bytes. -/
lemma toUInt8_inj {c d : Char} (hc : c.toNat < 128) (hd : d.toNat < 128)
    (h : c.toUInt8 = d.toUInt8) : c = d := by
  have hval : c.toUInt8.toNat = d.toUInt8.toNat := congrArg UInt8.toNat h
  simp only [Char.toUInt8, UInt32.toNat_toUInt8] at hval
  have hc' : c.val.toNat < 128 := hc
  have hd' : d.val.toNat < 128 := hd
  rw [Nat.mod_eq_of_lt (by omega), Nat.mod_eq_of_lt (by omega)] at hval
  exact Char.ext (UInt32.toNat_inj.mp hval)

lemma toUInt8_toNat {c : Char} (hc : c.toNat < 128) : c.toUInt8.toNat = c.toNat := by
  have hc' : c.val.toNat < 128 := hc
  simp only [Char.toUInt8, UInt32.toNat_toUInt8, Char.toNat]
  exact Nat.mod_eq_of_lt (by omega)

/-! ## Texts -/

/-- **The bytes of an ASCII text** are its characters, one byte each. -/
lemma bytes_eq_map {s : List Char} (hs : IsAscii s) : bytes s = s.map Char.toUInt8 := by
  induction s with
  | nil => rfl
  | cons c s ih =>
    obtain ⟨hc, hs⟩ := isAscii_cons.mp hs
    unfold bytes at *
    rw [List.flatMap_cons, utf8EncodeChar_of_ascii hc, ih hs]
    rfl

/-- A text is determined by its bytes. -/
lemma bytes_inj {s t : List Char} : bytes s = bytes t ↔ s = t := by
  refine ⟨fun h => ?_, fun h => by rw [h]⟩
  have hbytes : s.utf8Encode = t.utf8Encode := by
    rw [List.utf8Encode, List.utf8Encode]
    exact congrArg List.toByteArray h
  have hdecode := congrArg ByteArray.utf8Decode? hbytes
  rw [List.utf8Decode?_utf8Encode, List.utf8Decode?_utf8Encode, Option.some.injEq] at hdecode
  exact Array.toList_inj.mpr hdecode

/-- **A text that is not ASCII** has a byte from `0x80` on. -/
lemma exists_high_byte {s : List Char} (hs : ¬ IsAscii s) : ∃ b ∈ bytes s, 128 ≤ b.toNat := by
  simp only [IsAscii, not_forall, not_lt] at hs
  obtain ⟨c, hc, hlarge⟩ := hs
  have hlarge : 128 ≤ c.val.toNat := hlarge
  -- the first byte of a longer encoding has its high bit set
  suffices ∃ b ∈ String.utf8EncodeChar c, 128 ≤ b.toNat by
    obtain ⟨b, hb, hhigh⟩ := this
    exact ⟨b, List.mem_flatMap.mpr ⟨c, hc, hb⟩, hhigh⟩
  unfold String.utf8EncodeChar
  dsimp only
  split
  · omega
  split
  · refine ⟨_, List.mem_cons_self, ?_⟩
    simp only [UInt8.toNat_ofNat', Nat.reducePow]
    omega
  split
  · refine ⟨_, List.mem_cons_self, ?_⟩
    simp only [UInt8.toNat_ofNat', Nat.reducePow]
    omega
  · refine ⟨_, List.mem_cons_self, ?_⟩
    simp only [UInt8.toNat_ofNat', Nat.reducePow]
    omega

/-- The bytes of a text are at least as many as its characters. -/
lemma length_le_length_bytes (s : List Char) : s.length ≤ (bytes s).length := by
  induction s with
  | nil => simp [bytes]
  | cons c s ih =>
    unfold bytes at *
    rw [List.flatMap_cons, List.length_append, List.length_cons, String.length_utf8EncodeChar]
    have := c.utf8Size_pos
    omega

/-! ## Renaming the letters -/

section Map

variable {α β : Type*} [DecidableEq α] [DecidableEq β]

/-- Splitting commutes with a renaming that keeps the separator apart. -/
lemma splitOn_map {f : α → β} {a : α} {s : List α} (hf : ∀ x ∈ s, f x = f a → x = a) :
    (s.map f).splitOn (f a) = (s.splitOn a).map (List.map f) := by
  induction s with
  | nil => simp
  | cons x s ih =>
    have ih := ih fun y hy => hf y (List.mem_cons_of_mem _ hy)
    rw [List.map_cons, List.splitOn_cons_eq_if_modifyHead, List.splitOn_cons_eq_if_modifyHead, ih]
    by_cases hx : x = a
    · simp [hx]
    · have hne : f x ≠ f a := fun h => hx (hf x List.mem_cons_self h)
      simp only [beq_iff_eq, hx, hne, if_false]
      cases s.splitOn a <;> rfl

/-- A letter other than the separator is in one of the parts. -/
lemma exists_mem_splitOn {a x : α} {s : List α} (hx : x ∈ s) (hne : x ≠ a) :
    ∃ t ∈ s.splitOn a, x ∈ t := by
  induction s with
  | nil => cases hx
  | cons y s ih =>
    rw [List.splitOn_cons_eq_if_modifyHead]
    by_cases hy : y = a
    · have hmem : x ∈ s := (List.mem_cons.mp hx).resolve_left (by rw [hy]; exact hne)
      obtain ⟨t, ht, hxt⟩ := ih hmem
      rw [if_pos (by simpa using hy)]
      exact ⟨t, List.mem_cons_of_mem _ ht, hxt⟩
    · rw [if_neg (by simpa using hy)]
      cases hparts : s.splitOn a with
      | nil => exact absurd hparts (List.splitOn_ne_nil a s)
      | cons p ps =>
        rcases List.mem_cons.mp hx with rfl | hmem
        · exact ⟨x :: p, List.mem_cons_self, List.mem_cons_self⟩
        · obtain ⟨t, ht, hxt⟩ := ih hmem
          rw [hparts] at ht
          rcases List.mem_cons.mp ht with rfl | ht
          · exact ⟨y :: t, List.mem_cons_self, List.mem_cons_of_mem _ hxt⟩
          · exact ⟨t, List.mem_cons_of_mem _ ht, hxt⟩

/-- The parts of a text have only letters of the text. -/
lemma mem_of_mem_splitOn {a x : α} {s t : List α} (ht : t ∈ s.splitOn a) (hx : x ∈ t) : x ∈ s := by
  induction s generalizing t with
  | nil =>
    rw [List.splitOn_nil, List.mem_singleton] at ht
    rw [ht] at hx
    cases hx
  | cons y s ih =>
    rw [List.splitOn_cons_eq_if_modifyHead] at ht
    split at ht
    · rcases List.mem_cons.mp ht with rfl | ht
      · cases hx
      · exact List.mem_cons_of_mem _ (ih ht hx)
    · cases hparts : s.splitOn a with
      | nil => exact absurd hparts (List.splitOn_ne_nil a s)
      | cons p ps =>
        rw [hparts, List.modifyHead_cons] at ht
        rcases List.mem_cons.mp ht with rfl | ht
        · rcases List.mem_cons.mp hx with rfl | hx
          · exact List.mem_cons_self
          · exact List.mem_cons_of_mem _ (ih (by rw [hparts]; exact List.mem_cons_self) hx)
        · exact List.mem_cons_of_mem _ (ih (by rw [hparts]; exact List.mem_cons_of_mem _ ht) hx)

/-- Counting a letter commutes with a renaming that keeps it apart. -/
lemma count_map {f : α → β} {a : α} {s : List α} (hf : ∀ x ∈ s, f x = f a → x = a) :
    (s.map f).count (f a) = s.count a := by
  induction s with
  | nil => rfl
  | cons x s ih =>
    have ih := ih fun y hy => hf y (List.mem_cons_of_mem _ hy)
    rw [List.map_cons, List.count_cons, List.count_cons, ih]
    by_cases hx : x = a
    · simp [hx]
    · have hne : f x ≠ f a := fun h => hx (hf x List.mem_cons_self h)
      simp [hx, hne]

/-- The part of `s` after its last `a`, and all of `s` when there is none. -/
def afterLast {α : Type*} [DecidableEq α] (a : α) (s : List α) : List α :=
  (s.reverse.takeWhile (· ≠ a)).reverse

/-- Cutting after the last separator commutes with a renaming that keeps the separator apart. -/
lemma afterLast_map {f : α → β} {a : α} {s : List α} (hf : ∀ x ∈ s, f x = f a → x = a) :
    afterLast (f a) (s.map f) = (afterLast a s).map f := by
  have hcongr : ∀ l : List α, (∀ x ∈ l, f x = f a → x = a) →
      l.takeWhile ((fun y => decide (y ≠ f a)) ∘ f) = l.takeWhile fun x => decide (x ≠ a) := by
    intro l hl
    induction l with
    | nil => rfl
    | cons x l ih =>
      have ih := ih fun y hy => hl y (List.mem_cons_of_mem _ hy)
      have hx : f x = f a ↔ x = a := ⟨hl x List.mem_cons_self, fun h => by rw [h]⟩
      rw [List.takeWhile_cons, List.takeWhile_cons, ih]
      simp only [Function.comp_apply, ne_eq, hx]
  unfold afterLast
  rw [← List.map_reverse, List.takeWhile_map, List.map_reverse,
    hcongr _ fun x hx => hf x (List.mem_reverse.mp hx)]

lemma mem_of_mem_afterLast {a x : α} {s : List α} (hx : x ∈ afterLast a s) : x ∈ s := by
  unfold afterLast at hx
  exact List.mem_reverse.mp ((List.takeWhile_sublist _).subset (List.mem_reverse.mp hx))

end Map

/-! ## Order -/

/-- ASCII texts are in the order of their bytes. -/
lemma bytes_lt_bytes {s t : List Char} (hs : IsAscii s) (ht : IsAscii t) :
    bytes s < bytes t ↔ s < t := by
  rw [bytes_eq_map hs, bytes_eq_map ht]
  induction s generalizing t with
  | nil => cases t <;> simp
  | cons c s ih =>
    cases t with
    | nil => simp
    | cons d t =>
      obtain ⟨hc, hs⟩ := isAscii_cons.mp hs
      obtain ⟨hd, ht⟩ := isAscii_cons.mp ht
      have hlt : c.toUInt8 < d.toUInt8 ↔ c < d := by
        rw [UInt8.lt_iff_toNat_lt, toUInt8_toNat hc, toUInt8_toNat hd]
        rfl
      have heq : c.toUInt8 = d.toUInt8 ↔ c = d := ⟨toUInt8_inj hc hd, fun h => by rw [h]⟩
      rw [List.map_cons, List.map_cons, List.cons_lt_cons_iff, List.cons_lt_cons_iff, hlt, heq, ih hs ht]

end Text
