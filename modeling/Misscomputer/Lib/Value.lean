import Misscomputer.Lib.Json
import Misscomputer.Lib.Sorting
import Mathlib.Data.List.Lex
import Mathlib.Data.Rat.Defs

set_option relaxedAutoImplicit false
set_option autoImplicit false

/-!
# JSON values with real numbers

The values a dynamically typed JSON reader returns: integers and floating-point numbers are kept apart, the latter known
by their exact rational value. The texts of real numbers, the depth to which values may nest and the digits an integer may
have are parameters of the reader.

## Main definitions

* `Value` — the values.
* `Value.render` — the compact text of a value, under an escaping and a rendering of real numbers.
* `Value.sortKeys` — the value with its keys in order.
* `Value.Reader`, `Value.parse` — the reader and what it leaves open.
* `Value.IsReal` — texts that are read as real numbers.
* `Value.Readable` — values within the limits of a reader.

## Main results

* `Value.parse_render` — the reader inverts the writer on readable values.
* `Value.printable_render` — the text of a value is printable.
* `Value.length_render_le`, `Value.cost_sortKeys` — a bound of the length of the text, which does not depend on the order.

## Implementation notes

The scanners of strings and sequences are those of `Json`. The texts `NaN` and `Infinity` are read; an escape of an
unpaired surrogate is not.
-/

/-- A floating-point number, by its exact value when it is finite. -/
inductive Double
  | finite (q : ℚ)
  | nonFinite
  deriving DecidableEq

/-- A JSON value with integers and floating-point numbers. The members of an object keep their order. -/
inductive Value
  | null
  | bool (b : Bool)
  | int (n : ℤ)
  | float (x : Double)
  | str (s : List Char)
  | list (items : List Value)
  | dict (members : List (List Char × Value))

namespace Value

open Json (skipSpace scanString scanSeq renderString renderInt commas Faithful Follows)

/-! ## Writing -/

mutual

/-- The compact text of a value. -/
def render (esc : Char → List Char) (real : Double → List Char) : Value → List Char
  | null => "null".toList
  | bool true => "true".toList
  | bool false => "false".toList
  | int n => renderInt n
  | float x => real x
  | str s => renderString esc s
  | list items => '[' :: (commas (renderItems esc real items) ++ [']'])
  | dict members => '{' :: (commas (renderMembers esc real members) ++ ['}'])

/-- The texts of the items of a list. -/
def renderItems (esc : Char → List Char) (real : Double → List Char) : List Value → List (List Char)
  | [] => []
  | item :: items => render esc real item :: renderItems esc real items

/-- The texts of the members of an object. -/
def renderMembers (esc : Char → List Char) (real : Double → List Char) :
    List (List Char × Value) → List (List Char)
  | [] => []
  | (key, value) :: members =>
    (renderString esc key ++ ':' :: render esc real value) :: renderMembers esc real members

end

/-- The text of one member of an object. -/
def renderMember (esc : Char → List Char) (real : Double → List Char) (m : List Char × Value) : List Char :=
  renderString esc m.1 ++ ':' :: render esc real m.2

lemma renderItems_eq_map (esc : Char → List Char) (real : Double → List Char) (items : List Value) :
    renderItems esc real items = items.map (render esc real) := by
  induction items with
  | nil => rfl
  | cons item items ih => rw [renderItems, ih, List.map_cons]

lemma renderMembers_eq_map (esc : Char → List Char) (real : Double → List Char)
    (members : List (List Char × Value)) : renderMembers esc real members = members.map (renderMember esc real) := by
  induction members with
  | nil => rfl
  | cons m members ih =>
    obtain ⟨key, value⟩ := m
    rw [renderMembers, ih, List.map_cons]
    rfl

/-! ## Canonical order -/

mutual

/-- The value with the members of every object sorted by key. -/
def sortKeys : Value → Value
  | list items => list (sortKeysItems items)
  | dict members => dict (Sorting.sortOn Prod.fst (sortKeysMembers members))
  | v => v

/-- The items with the members of every object sorted by key. -/
def sortKeysItems : List Value → List Value
  | [] => []
  | item :: items => sortKeys item :: sortKeysItems items

/-- The members with the members of every object in their values sorted by key. -/
def sortKeysMembers : List (List Char × Value) → List (List Char × Value)
  | [] => []
  | (key, value) :: members => (key, sortKeys value) :: sortKeysMembers members

end

mutual

/-- Every floating-point number of the value is finite. -/
def allFinite : Value → Bool
  | float x => x != .nonFinite
  | list items => allFiniteItems items
  | dict members => allFiniteMembers members
  | _ => true

/-- Every floating-point number of the items is finite. -/
def allFiniteItems : List Value → Bool
  | [] => true
  | item :: items => allFinite item && allFiniteItems items

/-- Every floating-point number of the members is finite. -/
def allFiniteMembers : List (List Char × Value) → Bool
  | [] => true
  | (_, value) :: members => allFinite value && allFiniteMembers members

end

lemma sortKeysMembers_eq_map (members : List (List Char × Value)) :
    sortKeysMembers members = members.map fun m => (m.1, m.2.sortKeys) := by
  induction members with
  | nil => rfl
  | cons m members ih =>
    obtain ⟨key, value⟩ := m
    rw [sortKeysMembers, ih, List.map_cons]

lemma allFiniteItems_iff {items : List Value} : allFiniteItems items = true ↔ ∀ v ∈ items, allFinite v = true := by
  induction items with
  | nil => simp [allFiniteItems]
  | cons item items ih => rw [allFiniteItems, Bool.and_eq_true, ih, List.forall_mem_cons]

/-! ## Reading -/

/-- What a reader of values leaves open: how deep values may nest, how many digits an integer may have, and which number
the text of a real number stands for. -/
structure Reader where
  depth : ℕ
  digits : ℕ
  real : List Char → Double

/-- The sign of a number. -/
def scanSign (s : List Char) : List Char × List Char :=
  if s.head? = some '-' then (['-'], s.tail) else ([], s)

/-- The digits at the head of a text. -/
def scanDigits (s : List Char) : List Char × List Char := (s.takeWhile Char.isDigit, s.dropWhile Char.isDigit)

/-- A fraction, empty when there is none. -/
def scanFraction (s : List Char) : List Char × List Char :=
  if s.head? = some '.' ∧ (scanDigits s.tail).1 ≠ [] then ('.' :: (scanDigits s.tail).1, (scanDigits s.tail).2)
  else ([], s)

/-- The sign of an exponent. -/
def scanExponentSign (s : List Char) : List Char × List Char :=
  if s.head? = some '+' then (['+'], s.tail) else scanSign s

/-- An exponent, empty when there is none. -/
def scanExponent (s : List Char) : List Char × List Char :=
  match s with
  | [] => ([], [])
  | e :: rest =>
    let sign := scanExponentSign rest
    let digits := scanDigits sign.2
    if (e = 'e' ∨ e = 'E') ∧ digits.1 ≠ [] then (e :: (sign.1 ++ digits.1), digits.2) else ([], e :: rest)

/-- A run of digits without leading zeros. -/
def IsNatText (digits : List Char) : Prop := digits = Nat.toDigits 10 (Nat.ofDigitChars 10 digits 0)

instance (digits : List Char) : Decidable (IsNatText digits) := inferInstanceAs (Decidable (_ = _))

/-- The parts of a number: its sign, its digits, its fraction and its exponent. -/
structure NumberText where
  sign : List Char
  digits : List Char
  fraction : List Char
  exponent : List Char

/-- The number at the head of a text, in parts. -/
def scanParts (s : List Char) : NumberText × List Char :=
  let sign := scanSign s
  let digits := scanDigits sign.2
  let fraction := scanFraction digits.2
  let exponent := scanExponent fraction.2
  ({ sign := sign.1, digits := digits.1, fraction := fraction.1, exponent := exponent.1 }, exponent.2)

/-- The text of a number. -/
def NumberText.text (t : NumberText) : List Char := t.sign ++ t.digits ++ t.fraction ++ t.exponent

/-- The integer of a text without fraction and exponent. -/
def NumberText.integer (t : NumberText) : ℤ :=
  if t.sign = [] then Nat.ofDigitChars 10 t.digits 0 else -Nat.ofDigitChars 10 t.digits 0

/-- The value of a number: an integer, unless it has a fraction or an exponent. -/
def NumberText.value (r : Reader) (t : NumberText) : Option Value :=
  if ¬ IsNatText t.digits then none
  else if t.fraction = [] ∧ t.exponent = [] then
    if t.digits.length ≤ r.digits then some (int t.integer) else none
  else some (float (r.real t.text))

/-- A number. -/
def scanNumber (r : Reader) (s : List Char) : Option (Value × List Char) :=
  ((scanParts s).1.value r).map fun v => (v, (scanParts s).2)

/-- A member of an object. -/
def scanMember (value : List Char → Option (Value × List Char)) (s : List Char) :
    Option ((List Char × Value) × List Char) :=
  if (skipSpace s).head? = some '"' then do
    let (key, rest) ← scanString (skipSpace s).length (skipSpace s).tail
    if (skipSpace rest).head? = some ':' then do
      let (v, rest) ← value (skipSpace rest).tail
      some ((key, v), rest)
    else none
  else none

/-- The values that are written as a word. -/
def words : List (List Char × Value) :=
  [("null".toList, null), ("true".toList, bool true), ("false".toList, bool false), ("NaN".toList, float .nonFinite),
    ("Infinity".toList, float .nonFinite), ("-Infinity".toList, float .nonFinite)]

/-- A value that is written as a word. -/
def scanWord (s : List Char) : Option (Value × List Char) :=
  words.findSome? fun w => if w.1.isPrefixOf s then some (w.2, s.drop w.1.length) else none

/-- A value, nested no deeper than `n`. -/
def scanValue (r : Reader) : ℕ → List Char → Option (Value × List Char)
  | 0, _ => none
  | n + 1, s =>
    match skipSpace s with
    | '"' :: rest => (scanString (rest.length + 1) rest).map fun p => (str p.1, p.2)
    | '[' :: rest => (scanSeq ']' (scanValue r n) rest.length rest).map fun p => (list p.1, p.2)
    | '{' :: rest => do
      let (members, rest) ← scanSeq '}' (scanMember (scanValue r n)) rest.length rest
      if (members.map Prod.fst).Nodup then some (dict members, rest) else none
    | rest => (scanWord rest).or (scanNumber r rest)

/-- **The reader**: one value, with nothing but white space around it. -/
def parse (r : Reader) (s : List Char) : Option Value := do
  let (v, rest) ← scanValue r r.depth s
  if skipSpace rest = [] then some v else none

/-! ## Numbers in a text -/

/-- What follows a number does not continue it. -/
def Ends (s : List Char) : Prop := ∀ c ∈ s.head?, c.isDigit = false ∧ c ∉ ['.', 'e', 'E', '+', '-']

lemma ends_nil : Ends [] := by
  rintro c ⟨⟩

lemma Ends.head_ne {s : List Char} (hs : Ends s) {c : Char} (hc : c ∈ ['.', 'e', 'E', '+', '-']) :
    s.head? ≠ some c := by
  intro h
  exact (hs c h).2 hc

section Append

variable {s rest : List Char}

lemma scanDigits_append (hrest : Ends rest) :
    scanDigits (s ++ rest) = ((scanDigits s).1, (scanDigits s).2 ++ rest) := by
  have hnone : rest.takeWhile Char.isDigit = [] ∧ rest.dropWhile Char.isDigit = rest := by
    cases rest with
    | nil => exact ⟨rfl, rfl⟩
    | cons c rest => simp [(hrest c rfl).1]
  rw [scanDigits, scanDigits]
  induction s with
  | nil => simp [hnone]
  | cons c s ih =>
    rw [List.cons_append, List.takeWhile_cons, List.dropWhile_cons, List.takeWhile_cons, List.dropWhile_cons]
    by_cases hc : c.isDigit = true
    · obtain ⟨htake, hdrop⟩ := Prod.mk.inj ih
      simp only [hc, if_true, htake, hdrop]
    · simp [hc]

lemma scanSign_append (hrest : Ends rest) : scanSign (s ++ rest) = ((scanSign s).1, (scanSign s).2 ++ rest) := by
  cases s with
  | nil => rw [scanSign, List.nil_append, if_neg (hrest.head_ne (by decide)), scanSign, if_neg (by simp)]; rfl
  | cons c s =>
    rw [scanSign, scanSign]
    split <;> simp_all

lemma scanExponentSign_append (hrest : Ends rest) :
    scanExponentSign (s ++ rest) = ((scanExponentSign s).1, (scanExponentSign s).2 ++ rest) := by
  cases s with
  | nil =>
    have hsign := scanSign_append (s := []) hrest
    rw [scanExponentSign, List.nil_append, if_neg (hrest.head_ne (by decide)), scanExponentSign, if_neg (by simp)]
    exact hsign
  | cons c s =>
    rw [scanExponentSign, scanExponentSign]
    have hsign := scanSign_append (s := c :: s) hrest
    split <;> simp_all

lemma scanFraction_append (hrest : Ends rest) :
    scanFraction (s ++ rest) = ((scanFraction s).1, (scanFraction s).2 ++ rest) := by
  cases s with
  | nil =>
    rw [scanFraction, List.nil_append, if_neg fun h => hrest.head_ne (by decide) h.1, scanFraction,
      if_neg (by simp)]
    rfl
  | cons c s =>
    rw [scanFraction, scanFraction, List.cons_append, List.tail_cons, List.tail_cons, scanDigits_append hrest,
      List.head?_cons, List.head?_cons]
    split
    · rfl
    · rfl

lemma scanExponent_append (hrest : Ends rest) :
    scanExponent (s ++ rest) = ((scanExponent s).1, (scanExponent s).2 ++ rest) := by
  cases s with
  | nil =>
    rw [List.nil_append, scanExponent]
    cases rest with
    | nil => rfl
    | cons c rest =>
      rw [scanExponent, if_neg]
      · rfl
      · rintro ⟨rfl | rfl, -⟩
        · exact hrest.head_ne (c := 'e') (by decide) rfl
        · exact hrest.head_ne (c := 'E') (by decide) rfl
  | cons c s =>
    rw [List.cons_append, scanExponent, scanExponent, scanExponentSign_append hrest]
    simp only [scanDigits_append hrest]
    split
    · rfl
    · rfl

/-- What follows a number leaves its parts as they are. -/
lemma scanParts_append (hrest : Ends rest) : scanParts (s ++ rest) = ((scanParts s).1, (scanParts s).2 ++ rest) := by
  simp only [scanParts, scanSign_append hrest, scanDigits_append hrest, scanFraction_append hrest,
    scanExponent_append hrest]

end Append

lemma scanSign_text (s : List Char) : (scanSign s).1 ++ (scanSign s).2 = s := by
  rw [scanSign]
  split
  · rename_i h
    obtain ⟨t, rfl⟩ := List.head?_eq_some_iff.mp h
    rfl
  · rfl

lemma scanDigits_text (s : List Char) : (scanDigits s).1 ++ (scanDigits s).2 = s := List.takeWhile_append_dropWhile

lemma scanFraction_text (s : List Char) : (scanFraction s).1 ++ (scanFraction s).2 = s := by
  rw [scanFraction]
  split
  · rename_i h
    obtain ⟨t, rfl⟩ := List.head?_eq_some_iff.mp h.1
    rw [List.tail_cons, List.cons_append, scanDigits_text]
  · rfl

lemma scanExponentSign_text (s : List Char) : (scanExponentSign s).1 ++ (scanExponentSign s).2 = s := by
  rw [scanExponentSign]
  split
  · rename_i h
    obtain ⟨t, rfl⟩ := List.head?_eq_some_iff.mp h
    rfl
  · exact scanSign_text s

lemma scanExponent_text (s : List Char) : (scanExponent s).1 ++ (scanExponent s).2 = s := by
  cases s with
  | nil => rfl
  | cons e s =>
    rw [scanExponent]
    split
    · rw [List.cons_append, List.append_assoc, scanDigits_text, scanExponentSign_text]
    · rfl

/-- The parts of a number are the text that was scanned. -/
lemma scanParts_text (s : List Char) : (scanParts s).1.text ++ (scanParts s).2 = s := by
  simp only [scanParts, NumberText.text, List.append_assoc]
  rw [scanExponent_text, scanFraction_text, scanDigits_text, scanSign_text]

/-- The texts that are read as real numbers: without leading zeros, with a fraction or an exponent. -/
def IsReal (t : List Char) : Prop :=
  (scanParts t).2 = [] ∧ IsNatText (scanParts t).1.digits ∧
    ¬ ((scanParts t).1.fraction = [] ∧ (scanParts t).1.exponent = [])

instance (t : List Char) : Decidable (IsReal t) := inferInstanceAs (Decidable (_ ∧ _ ∧ ¬ (_ ∧ _)))

/-- A real number is read back from its text. -/
lemma scanNumber_real {r : Reader} {t rest : List Char} (ht : IsReal t) (hrest : Ends rest) :
    scanNumber r (t ++ rest) = some (float (r.real t), rest) := by
  obtain ⟨hall, hdigits, hreal⟩ := ht
  have htext := scanParts_text t
  rw [hall, List.append_nil] at htext
  rw [scanNumber, scanParts_append hrest, NumberText.value, if_neg (not_not.mpr hdigits), if_neg hreal, hall, htext]
  rfl

lemma isNatText_toDigits (n : ℕ) : IsNatText (Nat.toDigits 10 n) := by
  rw [IsNatText, Nat.ofDigitChars_ten_toDigits]

lemma scanDigits_toDigits (n : ℕ) : scanDigits (Nat.toDigits 10 n) = (Nat.toDigits 10 n, []) := by
  have hdigits : ∀ c ∈ Nat.toDigits 10 n, c.isDigit = true := fun c hc =>
    Nat.isDigit_of_mem_toDigits (by decide) (by decide) hc
  rw [scanDigits, List.takeWhile_eq_self_iff.mpr hdigits, List.dropWhile_eq_nil_iff.mpr hdigits]

/-- The parts of the text of an integer. -/
lemma scanParts_renderInt (n : ℤ) : scanParts (renderInt n) =
    ({ sign := if n < 0 then ['-'] else [], digits := Nat.toDigits 10 n.natAbs, fraction := [], exponent := [] },
      []) := by
  have hsign : scanSign (renderInt n) = (if n < 0 then ['-'] else [], Nat.toDigits 10 n.natAbs) := by
    rw [renderInt]
    split
    · rfl
    · obtain ⟨c, ds, htext, hdigit⟩ := Json.head_toDigits n.natAbs
      rw [scanSign, if_neg]
      rw [htext, List.head?_cons]
      rintro ⟨rfl⟩
      cases hdigit
  simp only [scanParts, hsign, scanDigits_toDigits]
  rfl

lemma NumberText.value_integer {r : Reader} {t : NumberText} (hdigits : IsNatText t.digits) (hfraction : t.fraction = [])
    (hexponent : t.exponent = []) (hlength : t.digits.length ≤ r.digits) : t.value r = some (int t.integer) := by
  rw [NumberText.value, if_neg (not_not.mpr hdigits), if_pos ⟨hfraction, hexponent⟩, if_pos hlength]

/-- An integer is read back from its text, if it has no more digits than the reader takes. -/
lemma scanNumber_int {r : Reader} {n : ℤ} {rest : List Char} (hn : (Nat.toDigits 10 n.natAbs).length ≤ r.digits)
    (hrest : Ends rest) : scanNumber r (renderInt n ++ rest) = some (int n, rest) := by
  have hvalue : NumberText.integer ⟨if n < 0 then ['-'] else [], Nat.toDigits 10 n.natAbs, [], []⟩ = n := by
    rw [NumberText.integer, Nat.ofDigitChars_ten_toDigits]
    by_cases hneg : n < 0
    · simp only [if_pos hneg, List.cons_ne_nil, if_false]
      omega
    · simp only [if_neg hneg, if_true]
      omega
  rw [scanNumber, scanParts_append hrest, scanParts_renderInt]
  dsimp only
  rw [NumberText.value_integer (isNatText_toDigits _) rfl rfl hn, hvalue]
  rfl

/-! ## The round trip -/

/-- A text that begins as a number does. -/
def BeginsNumber (s : List Char) : Prop := ∃ c rest, c.isDigit = true ∧ (s = c :: rest ∨ s = '-' :: c :: rest)

lemma BeginsNumber.append {s : List Char} (hs : BeginsNumber s) (rest : List Char) : BeginsNumber (s ++ rest) := by
  obtain ⟨c, t, hc, rfl | rfl⟩ := hs
  · exact ⟨c, t ++ rest, hc, .inl rfl⟩
  · exact ⟨c, t ++ rest, hc, .inr rfl⟩

lemma beginsNumber_renderInt (n : ℤ) : BeginsNumber (renderInt n) := by
  obtain ⟨c, rest, htext, hc⟩ := Json.head_toDigits n.natAbs
  rw [renderInt, htext]
  split
  · exact ⟨c, rest, hc, .inr rfl⟩
  · exact ⟨c, rest, hc, .inl rfl⟩

lemma beginsNumber_of_isReal {t : List Char} (ht : IsReal t) : BeginsNumber t := by
  obtain ⟨hall, hdigits, -⟩ := ht
  have htext := scanParts_text t
  rw [hall, List.append_nil, NumberText.text] at htext
  obtain ⟨c, rest, hhead, hc⟩ := Json.head_toDigits (Nat.ofDigitChars 10 (scanParts t).1.digits 0)
  rw [← hdigits] at hhead
  rw [← htext, hhead]
  have hsign : (scanParts t).1.sign = [] ∨ (scanParts t).1.sign = ['-'] := by
    change (scanSign t).1 = [] ∨ (scanSign t).1 = ['-']
    rw [scanSign]
    split
    · exact .inr rfl
    · exact .inl rfl
  rcases hsign with hsign | hsign
  · rw [hsign]
    exact ⟨c, _, hc, .inl rfl⟩
  · rw [hsign]
    exact ⟨c, _, hc, .inr rfl⟩

lemma scanWord_eq_none {s : List Char} (hs : BeginsNumber s) : scanWord s = none := by
  obtain ⟨c, rest, hc, hs⟩ := hs
  have hother : ∀ d ∈ ['n', 't', 'f', 'N', 'I', '-'], d ≠ c := by
    intro d hd
    simp only [List.mem_cons, List.not_mem_nil, or_false] at hd
    rintro rfl
    obtain rfl | rfl | rfl | rfl | rfl | rfl := hd
    all_goals cases hc
  simp only [List.forall_mem_cons] at hother
  obtain ⟨hn, ht, hf, hN, hI, hminus, -⟩ := hother
  rcases hs with rfl | rfl
  · simp [scanWord, words, hn, ht, hf, hN, hI, hminus]
  · simp [scanWord, words, hI]

/-- A text that begins with no quote and no bracket is a word or a number. -/
lemma scanValue_bare {r : Reader} {c : Char} {s : List Char} {n : ℕ} (hspace : Json.isSpace c = false)
    (hc : c ∉ ['"', '[', '{']) :
    scanValue r (n + 1) (c :: s) = (scanWord (c :: s)).or (scanNumber r (c :: s)) := by
  simp only [List.mem_cons, List.not_mem_nil, or_false, not_or] at hc
  rw [scanValue, Json.skipSpace_cons hspace]
  split <;> simp_all

/-- A text that begins as a number does is read as one. -/
lemma scanValue_number {r : Reader} {s : List Char} {n : ℕ} (hs : BeginsNumber s) :
    scanValue r (n + 1) s = scanNumber r s := by
  have hword := scanWord_eq_none hs
  obtain ⟨c, rest, hc, rfl | rfl⟩ := hs
  · obtain ⟨hspace, hother⟩ := Json.isDigit_cases hc
    rw [scanValue_bare hspace, hword, Option.none_or]
    intro h
    exact hother (by simp at h ⊢; tauto)
  · rw [scanValue_bare (by decide) (by decide), hword, Option.none_or]

lemma scanValue_str {r : Reader} {s : List Char} {n : ℕ} :
    scanValue r (n + 1) ('"' :: s) = (scanString (s.length + 1) s).map fun p => (str p.1, p.2) := rfl

lemma scanValue_list {r : Reader} {s : List Char} {n : ℕ} :
    scanValue r (n + 1) ('[' :: s) = (scanSeq ']' (scanValue r n) s.length s).map fun p => (list p.1, p.2) := rfl

lemma scanValue_dict {r : Reader} {s : List Char} {n : ℕ} : scanValue r (n + 1) ('{' :: s) =
    (scanSeq '}' (scanMember (scanValue r n)) s.length s).bind fun p =>
      if (p.1.map Prod.fst).Nodup then some (dict p.1, p.2) else none := rfl

/-- A value a reader takes: within its depth and its digits, no key twice in an object, every real number with a text
that is read as that number. -/
def Readable (r : Reader) (real : Double → List Char) : ℕ → Value → Prop
  | 0, _ => False
  | n + 1, v =>
    match v with
    | int k => (Nat.toDigits 10 k.natAbs).length ≤ r.digits
    | float x => IsReal (real x) ∧ r.real (real x) = x
    | list items => ∀ item ∈ items, Readable r real n item
    | dict members => (members.map Prod.fst).Nodup ∧ ∀ m ∈ members, Readable r real n m.2
    | _ => True

section RoundTrip

variable {r : Reader} {esc : Char → List Char} {real : Double → List Char}

/-- The text of a readable value begins a value. -/
lemma render_head {n : ℕ} {v : Value} (hv : Readable r real n v) :
    ∃ c rest, render esc real v = c :: rest ∧ Json.BeginsValue c := by
  have hnumber : ∀ s, BeginsNumber s → ∃ c rest, s = c :: rest ∧ Json.BeginsValue c := by
    rintro s ⟨c, rest, hc, rfl | rfl⟩
    · obtain ⟨hspace, hother⟩ := Json.isDigit_cases hc
      refine ⟨c, rest, rfl, hspace, ?_, ?_⟩
      · rintro rfl
        exact hother (by decide)
      · rintro rfl
        exact hother (by decide)
    · exact ⟨'-', c :: rest, rfl, by decide, by decide, by decide⟩
  cases n with
  | zero => exact hv.elim
  | succ n =>
    cases v with
    | null => exact ⟨'n', "ull".toList, rfl, by decide, by decide, by decide⟩
    | bool b =>
      cases b with
      | true => exact ⟨'t', "rue".toList, rfl, by decide, by decide, by decide⟩
      | false => exact ⟨'f', "alse".toList, rfl, by decide, by decide, by decide⟩
    | int k => exact hnumber _ (beginsNumber_renderInt k)
    | float x => exact hnumber _ (beginsNumber_of_isReal hv.1)
    | str s => exact ⟨'"', _, by rw [render, renderString], by decide, by decide, by decide⟩
    | list items => exact ⟨'[', _, by rw [render], by decide, by decide, by decide⟩
    | dict members => exact ⟨'{', _, by rw [render], by decide, by decide, by decide⟩

lemma ends_of_follows {close : Char} (hclose : close = ']' ∨ close = '}') {s : List Char} (hs : Follows close s) :
    Ends s := by
  obtain ⟨rest, rfl | rfl⟩ := hs
  · rintro c ⟨rfl⟩
    rcases hclose with rfl | rfl
    · decide
    · decide
  · rintro c ⟨rfl⟩
    decide

/-- A member is read back, if its value is. -/
lemma scanMember_render (hesc : Faithful esc) {value : List Char → Option (Value × List Char)}
    {m : List Char × Value} {rest : List Char}
    (hvalue : value (render esc real m.2 ++ rest) = some (m.2, rest)) :
    scanMember value (renderMember esc real m ++ rest) = some (m, rest) := by
  obtain ⟨key, v⟩ := m
  have htext : renderMember esc real (key, v) ++ rest =
      '"' :: (key.flatMap esc ++ '"' :: ':' :: (render esc real v ++ rest)) := by
    simp [renderMember, renderString]
  have hkey := Json.length_le_length_flatMap hesc key
  have hstring := Json.scanString_flatMap hesc key (':' :: (render esc real v ++ rest))
    (n := ('"' :: (key.flatMap esc ++ '"' :: ':' :: (render esc real v ++ rest))).length)
    (by rw [List.length_cons, List.length_append]; omega)
  rw [htext, scanMember, Json.skipSpace_cons (by decide), List.tail_cons, hstring]
  simp [Json.skipSpace_cons (c := ':') (by decide), hvalue]

/-- **A readable value is read back from its text**, followed by anything that does not continue a number.

**Proof sketch.** Induction on the depth. The items of a list and the members of an object are read back one level
down, each followed by a comma or the closing bracket. -/
lemma scanValue_render (hesc : Faithful esc) {n : ℕ} {v : Value} {rest : List Char} (hv : Readable r real n v)
    (hrest : Ends rest) : scanValue r n (render esc real v ++ rest) = some (v, rest) := by
  induction n generalizing v rest with
  | zero => exact hv.elim
  | succ n ih =>
    cases v with
    | null => rfl
    | bool b => cases b <;> rfl
    | int k =>
      rw [render, scanValue_number ((beginsNumber_renderInt k).append rest), scanNumber_int hv hrest]
    | float x =>
      rw [render, scanValue_number ((beginsNumber_of_isReal hv.1).append rest), scanNumber_real hv.1 hrest, hv.2]
    | str s =>
      have hlength := Json.length_le_length_flatMap hesc s
      have hstring := Json.scanString_flatMap hesc s rest (n := (s.flatMap esc ++ '"' :: rest).length + 1)
        (by rw [List.length_append]; omega)
      have htext : render esc real (str s) ++ rest = '"' :: (s.flatMap esc ++ '"' :: rest) := by
        simp [render, renderString]
      rw [htext, scanValue_str, hstring]
      rfl
    | list items =>
      have htext : render esc real (list items) ++ rest =
          '[' :: (commas (items.map (render esc real)) ++ ']' :: rest) := by
        simp [render, renderItems_eq_map]
      have hseq : scanSeq ']' (scanValue r n) (commas (items.map (render esc real)) ++ ']' :: rest).length
          (commas (items.map (render esc real)) ++ ']' :: rest) = some (items, rest) := by
        apply Json.scanSeq_commas (by decide) (by decide)
        · intro x hx
          obtain ⟨c, t, htext, hbegin⟩ := @render_head r esc real _ _ (hv x hx)
          exact ⟨c, t, htext, hbegin.1, hbegin.2.1⟩
        · intro x hx s hs
          exact ih (hv x hx) (ends_of_follows (.inl rfl) hs)
        · have := Json.length_le_length_commas (items.map (render esc real))
          rw [List.length_map] at this
          rw [List.length_append, List.length_cons]
          omega
      rw [htext, scanValue_list, hseq]
      rfl
    | dict members =>
      have htext : render esc real (dict members) ++ rest =
          '{' :: (commas (members.map (renderMember esc real)) ++ '}' :: rest) := by
        simp [render, renderMembers_eq_map]
      have hseq : scanSeq '}' (scanMember (scanValue r n))
          (commas (members.map (renderMember esc real)) ++ '}' :: rest).length
          (commas (members.map (renderMember esc real)) ++ '}' :: rest) = some (members, rest) := by
        apply Json.scanSeq_commas (by decide) (by decide)
        · intro m _
          exact ⟨'"', _, rfl, by decide, by decide⟩
        · intro m hm s hs
          exact scanMember_render hesc (ih (hv.2 m hm) (ends_of_follows (.inr rfl) hs))
        · have := Json.length_le_length_commas (members.map (renderMember esc real))
          rw [List.length_map] at this
          rw [List.length_append, List.length_cons]
          omega
      rw [htext, scanValue_dict, hseq]
      exact if_pos hv.1

/-! ## The characters of a text -/

lemma printable_scanDigits (s : List Char) : ∀ d ∈ (scanDigits s).1, Json.Printable d := by
  intro d hd
  have hdigit : d.isDigit = true := List.mem_takeWhile_imp hd
  simp only [Char.isDigit, Bool.and_eq_true, decide_eq_true_eq, UInt32.le_iff_toNat_le] at hdigit
  have hlow : 48 ≤ d.toNat := hdigit.1
  have hhigh : d.toNat ≤ 57 := hdigit.2
  exact ⟨by omega, by omega⟩

lemma printable_scanSign (s : List Char) : ∀ d ∈ (scanSign s).1, Json.Printable d := by
  rw [scanSign]
  split
  · exact List.forall_mem_singleton.mpr (by decide)
  · simp

lemma printable_scanFraction (s : List Char) : ∀ d ∈ (scanFraction s).1, Json.Printable d := by
  rw [scanFraction]
  split
  · exact List.forall_mem_cons.mpr ⟨by decide, printable_scanDigits _⟩
  · simp

lemma printable_scanExponent (s : List Char) : ∀ d ∈ (scanExponent s).1, Json.Printable d := by
  cases s with
  | nil => simp [scanExponent]
  | cons e s =>
    have hsign : ∀ d ∈ (scanExponentSign s).1, Json.Printable d := by
      rw [scanExponentSign]
      split
      · exact List.forall_mem_singleton.mpr (by decide)
      · exact printable_scanSign s
    rw [scanExponent]
    split
    · rename_i h
      have he : Json.Printable e := by
        rcases h.1 with rfl | rfl
        · decide
        · decide
      exact List.forall_mem_cons.mpr ⟨he, List.forall_mem_append.mpr ⟨hsign, printable_scanDigits _⟩⟩
    · simp

/-- The text of a real number is printable. -/
lemma printable_of_isReal {t : List Char} (ht : IsReal t) : ∀ d ∈ t, Json.Printable d := by
  have htext := scanParts_text t
  rw [ht.1, List.append_nil, NumberText.text] at htext
  rw [← htext]
  simp only [List.forall_mem_append]
  exact ⟨⟨⟨printable_scanSign _, printable_scanDigits _⟩, printable_scanFraction _⟩, printable_scanExponent _⟩

lemma printable_renderString (hesc : ∀ c, ∀ d ∈ esc c, Json.Printable d) (s : List Char) : ∀ d ∈ renderString esc s, Json.Printable d := by
  rw [renderString, List.forall_mem_cons, List.forall_mem_append, List.forall_mem_singleton]
  refine ⟨by decide, fun d hd => ?_, by decide⟩
  obtain ⟨c, -, hd⟩ := List.mem_flatMap.mp hd
  exact hesc c d hd

mutual

/-- **The text of a value is printable** when its strings are escaped and its real numbers rendered so. -/
theorem printable_render (hesc : ∀ c, ∀ d ∈ esc c, Json.Printable d) (hreal : ∀ x, ∀ d ∈ real x, Json.Printable d) :
    ∀ v : Value, ∀ d ∈ render esc real v, Json.Printable d
  | null => by rw [render]; decide
  | bool true => by rw [render]; decide
  | bool false => by rw [render]; decide
  | int n => by rw [render]; exact Json.printable_renderInt n
  | float x => by rw [render]; exact hreal x
  | str s => by rw [render]; exact printable_renderString hesc s
  | list items => by
    rw [render, List.forall_mem_cons, List.forall_mem_append, List.forall_mem_singleton]
    exact ⟨by decide, Json.forall_mem_commas (by decide) (printable_renderItems hesc hreal items), by decide⟩
  | dict members => by
    rw [render, List.forall_mem_cons, List.forall_mem_append, List.forall_mem_singleton]
    exact ⟨by decide, Json.forall_mem_commas (by decide) (printable_renderMembers hesc hreal members), by decide⟩

/-- The texts of the items are printable. -/
theorem printable_renderItems (hesc : ∀ c, ∀ d ∈ esc c, Json.Printable d)
    (hreal : ∀ x, ∀ d ∈ real x, Json.Printable d) :
    ∀ items : List Value, ∀ t ∈ renderItems esc real items, ∀ d ∈ t, Json.Printable d
  | [], t, ht => by rw [renderItems] at ht; cases ht
  | item :: items, t, ht => by
    rw [renderItems] at ht
    rcases List.mem_cons.mp ht with rfl | ht
    · exact printable_render hesc hreal item
    · exact printable_renderItems hesc hreal items t ht

/-- The texts of the members are printable. -/
theorem printable_renderMembers (hesc : ∀ c, ∀ d ∈ esc c, Json.Printable d)
    (hreal : ∀ x, ∀ d ∈ real x, Json.Printable d) :
    ∀ members : List (List Char × Value), ∀ t ∈ renderMembers esc real members, ∀ d ∈ t, Json.Printable d
  | [], t, ht => by rw [renderMembers] at ht; cases ht
  | (key, value) :: members, t, ht => by
    rw [renderMembers] at ht
    rcases List.mem_cons.mp ht with rfl | ht
    · rw [List.forall_mem_append, List.forall_mem_cons]
      exact ⟨printable_renderString hesc key, by decide, printable_render hesc hreal value⟩
    · exact printable_renderMembers hesc hreal members t ht

end

/-- **The reader inverts the writer** on readable values, whatever white space follows. -/
theorem parse_render (hesc : Faithful esc) {v : Value} (hv : Readable r real r.depth v) {space : List Char}
    (hspace : ∀ c ∈ space, Json.isSpace c = true) : parse r (render esc real v ++ space) = some v := by
  have hskip : skipSpace space = [] := List.dropWhile_eq_nil_iff.2 hspace
  have hends : Ends space := by
    intro c hc
    have hc := hspace c (List.mem_of_mem_head? hc)
    simp only [Json.isSpace, Bool.or_eq_true, decide_eq_true_eq] at hc
    obtain ((rfl | rfl) | rfl) | rfl := hc
    all_goals decide
  rw [parse, scanValue_render hesc hv hends]
  simp [hskip]

end RoundTrip

/-! ## Lengths -/

mutual

/-- A bound of the length of the text of a value, for an escaping that writes a character in at most twelve. -/
def cost (real : Double → List Char) : Value → ℕ
  | null => 4
  | bool _ => 5
  | int n => (renderInt n).length
  | float x => (real x).length
  | str s => 12 * s.length + 2
  | list items => 1 + costItems real items
  | dict members => 1 + costMembers real members

/-- The items of a list, each with a separator. -/
def costItems (real : Double → List Char) : List Value → ℕ
  | [] => 1
  | item :: items => cost real item + 1 + costItems real items

/-- The members of an object, each with its separators. -/
def costMembers (real : Double → List Char) : List (List Char × Value) → ℕ
  | [] => 1
  | (key, value) :: members => 12 * key.length + cost real value + 4 + costMembers real members

end

section Lengths

variable {esc : Char → List Char} {real : Double → List Char}

lemma costMembers_eq_sum (members : List (List Char × Value)) :
    costMembers real members = (members.map fun m => 12 * m.1.length + cost real m.2 + 4).sum + 1 := by
  induction members with
  | nil => rfl
  | cons m members ih =>
    obtain ⟨key, value⟩ := m
    simp only [costMembers, ih, List.map_cons, List.sum_cons]
    omega

lemma length_renderString_le (hesc : ∀ c, (esc c).length ≤ 12) (s : List Char) :
    (renderString esc s).length ≤ 12 * s.length + 2 := by
  have hflat : (s.flatMap esc).length ≤ 12 * s.length := by
    induction s with
    | nil => exact le_refl 0
    | cons c s ih =>
      rw [List.flatMap_cons, List.length_append, List.length_cons]
      have := hesc c
      omega
  rw [renderString, List.length_cons, List.length_append, List.length_singleton]
  omega

mutual

/-- **The text of a value is within its cost.** -/
theorem length_render_le (hesc : ∀ c, (esc c).length ≤ 12) : ∀ v : Value, (render esc real v).length ≤ cost real v
  | null => by rw [render, cost]; decide
  | bool true => by rw [render, cost]; decide
  | bool false => by rw [render, cost]; decide
  | int n => by rw [render, cost]
  | float x => by rw [render, cost]
  | str s => by
    rw [render, cost]
    exact length_renderString_le hesc s
  | list items => by
    rw [render, cost, List.length_cons, List.length_append, List.length_singleton]
    have := Json.length_commas_le (renderItems esc real items)
    have := length_renderItems_le hesc items
    omega
  | dict members => by
    rw [render, cost, List.length_cons, List.length_append, List.length_singleton]
    have := Json.length_commas_le (renderMembers esc real members)
    have := length_renderMembers_le hesc members
    omega

/-- The texts of the items are within their cost. -/
theorem length_renderItems_le (hesc : ∀ c, (esc c).length ≤ 12) : ∀ items : List Value,
    ((renderItems esc real items).map fun t => t.length + 1).sum + 1 ≤ costItems real items
  | [] => le_refl 1
  | item :: items => by
    rw [renderItems, costItems, List.map_cons, List.sum_cons]
    have := length_render_le hesc item
    have := length_renderItems_le hesc items
    omega

/-- The texts of the members are within their cost. -/
theorem length_renderMembers_le (hesc : ∀ c, (esc c).length ≤ 12) : ∀ members : List (List Char × Value),
    ((renderMembers esc real members).map fun t => t.length + 1).sum + 1 ≤ costMembers real members
  | [] => le_refl 1
  | (key, value) :: members => by
    rw [renderMembers, costMembers, List.map_cons, List.sum_cons, List.length_append, List.length_cons]
    have := length_renderString_le hesc key
    have := length_render_le hesc value
    have := length_renderMembers_le hesc members
    omega

end

mutual

/-- Sorting the keys does not change the cost. -/
theorem cost_sortKeys : ∀ v : Value, cost real v.sortKeys = cost real v
  | null => rfl
  | bool _ => rfl
  | int _ => rfl
  | float _ => rfl
  | str _ => rfl
  | list items => by rw [sortKeys, cost, cost, costItems_sortKeys items]
  | dict members => by
    have hperm := (Sorting.sortOn_perm Prod.fst (sortKeysMembers members)).map
      fun m => 12 * m.1.length + cost real m.2 + 4
    rw [sortKeys, cost, cost, ← costMembers_sortKeys members, costMembers_eq_sum, costMembers_eq_sum, hperm.sum_eq]

/-- Sorting the keys of the items does not change their cost. -/
theorem costItems_sortKeys : ∀ items : List Value, costItems real (sortKeysItems items) = costItems real items
  | [] => rfl
  | item :: items => by rw [sortKeysItems, costItems, costItems, cost_sortKeys item, costItems_sortKeys items]

/-- Sorting the keys of the values does not change the cost of the members. -/
theorem costMembers_sortKeys : ∀ members : List (List Char × Value),
    costMembers real (sortKeysMembers members) = costMembers real members
  | [] => rfl
  | (key, value) :: members => by
    rw [sortKeysMembers, costMembers, costMembers, cost_sortKeys value, costMembers_sortKeys members]

end

end Lengths

end Value
