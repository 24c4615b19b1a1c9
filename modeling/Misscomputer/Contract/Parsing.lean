import Misscomputer.Contract.Codec
import Misscomputer.Lib.Dict

set_option relaxedAutoImplicit false
set_option autoImplicit false

/-!
# Sealed contracts read back

Every contract is read the same way: the bytes are a JSON document, the document has the members of the
contract and no others, their values make a value of the contract, and the canonical bytes of that value are
the bytes that were read. So a contract is read from its canonical bytes and from no others.

## Main definitions

* `Contract.memberValues` — the values of the members of an object, in a fixed order.
* `Contract.Model` — a contract: its documents and its values.
* `Contract.Model.bytes`, `Contract.Model.modelBytes`, `Contract.Model.parse` — its canonical bytes and its
  parser.

## Main results

* `Contract.memberValues_document` — the members of a document are read back, whatever their order.
* `Contract.Model.parse_eq_ok_iff` — the parser accepts the canonical bytes of valid values within the limit,
  and nothing else.
* `Contract.Model.newline_notMem` — the canonical bytes are one line.

## References

* `src/misscomputer_subnet/contract_codec.py`
-/

namespace Misscomputer

namespace Contract

/-- A loop that fails nowhere. -/
lemma mapM_eq_some {α β : Type} {f : α → Option β} {g : α → β} {l : List α} (h : ∀ a ∈ l, f a = some (g a)) :
    l.mapM f = some (l.map g) := by
  induction l with
  | nil => rfl
  | cons a l ih =>
    rw [List.mapM_cons, h a List.mem_cons_self, ih fun b hb => h b (List.mem_cons_of_mem _ hb)]
    rfl

/-- A loop that returns the results of its rounds. -/
lemma mapM_eq_ok_iff {ε α β : Type} {f : α → Except ε β} {l : List α} {bs : List β} :
    l.mapM f = .ok bs ↔ List.Forall₂ (fun a b => f a = .ok b) l bs := by
  induction l generalizing bs with
  | nil =>
    change Except.ok [] = .ok bs ↔ _
    rw [List.forall₂_nil_left_iff, Except.ok.injEq, eq_comm]
  | cons a l ih =>
    rw [List.mapM_cons, List.forall₂_cons_left_iff]
    simp only [Except.bind_eq_ok, ih, pure, Except.pure, Except.ok.injEq]
    constructor
    · rintro ⟨b, hb, bs', hbs', rfl⟩
      exact ⟨b, bs', hb, hbs', rfl⟩
    · rintro ⟨b, bs', hb, hbs', rfl⟩
      exact ⟨b, hb, bs', hbs', rfl⟩

/-! ## Members -/

/-- Texts are compared character by character. -/
local instance lawfulBEq_memberNames : @LawfulBEq (List Char) List.instBEq := inferInstance

/-- The values of the required members and those of the optional ones or their defaults. An object with a
member that is missing or not known is refused. -/
def memberValues (required : List String) (optional : List (String × Json)) : Json → Option (List Json)
  | .obj members =>
    if ∀ m ∈ members, m.1 ∈ (required ++ optional.map Prod.fst).map String.toList then do
      let values ← required.mapM fun key => Dict.get members key.toList
      some (values ++ optional.map fun o => (Dict.get members o.1.toList).getD o.2)
    else none
  | _ => none

section Members

variable {members more optional : List (String × Json)}

/-- The keys of a document are those of its members. -/
lemma keys_document_perm : ((Sorting.sortOn Prod.fst (members.map fun m => (m.1.toList, m.2))).map Prod.fst).Perm
    ((members.map Prod.fst).map String.toList) := by
  refine ((Sorting.sortOn_perm _ _).map _).trans (List.Perm.of_eq ?_)
  rw [List.map_map, List.map_map]
  rfl

lemma toList_injective : Function.Injective String.toList := fun _ _ h => String.toList_inj.mp h

lemma nodup_keys_document (hnodup : (members.map Prod.fst).Nodup) :
    ((Sorting.sortOn Prod.fst (members.map fun m => (m.1.toList, m.2))).map Prod.fst).Nodup :=
  keys_document_perm.nodup_iff.mpr (hnodup.map toList_injective)

/-- A member of a document is found under its key. -/
lemma get_document (hnodup : (members.map Prod.fst).Nodup) {m : String × Json} (hm : m ∈ members) :
    Dict.get (Sorting.sortOn Prod.fst (members.map fun m => (m.1.toList, m.2))) m.1.toList = some m.2 := by
  rw [← Dict.mem_iff_get (nodup_keys_document hnodup), Sorting.mem_sortOn]
  exact List.mem_map.mpr ⟨m, hm, rfl⟩

/-- Under another key there is nothing. -/
lemma get_document_eq_none {key : String} (hkey : key ∉ members.map Prod.fst) :
    Dict.get (Sorting.sortOn Prod.fst (members.map fun m => (m.1.toList, m.2))) key.toList = none := by
  rw [Dict.get_eq_none_iff]
  intro hmem
  have hmem' := keys_document_perm.mem_iff.mp hmem
  obtain ⟨other, hother, heq⟩ := List.mem_map.mp hmem'
  exact hkey (toList_injective heq ▸ hother)

/-- **The members of a document are read back.** Of the optional ones, `more` are there. -/
lemma memberValues_document_append (hnodup : ((members ++ more).map Prod.fst).Nodup)
    (hmore : ∀ m ∈ more, m.1 ∈ optional.map Prod.fst) :
    memberValues (members.map Prod.fst) optional (document (members ++ more)) =
      some (members.map Prod.snd ++ optional.map fun o =>
        (Dict.get (Sorting.sortOn Prod.fst ((members ++ more).map fun m => (m.1.toList, m.2))) o.1.toList).getD
          o.2) := by
  rw [document, memberValues, if_pos]
  · have hvalues : (members.map Prod.fst).mapM (fun key =>
        Dict.get (Sorting.sortOn Prod.fst ((members ++ more).map fun m => (m.1.toList, m.2))) key.toList) =
        some (members.map Prod.snd) := by
      rw [List.mapM_map]
      exact mapM_eq_some fun m hm => get_document hnodup (List.mem_append_left _ hm)
    rw [hvalues]
    rfl
  · intro m hm
    obtain ⟨m', hm', rfl⟩ := List.mem_map.mp (Sorting.mem_sortOn.mp hm)
    refine List.mem_map_of_mem ?_
    rcases List.mem_append.mp hm' with hm' | hm'
    · exact List.mem_append_left _ (List.mem_map_of_mem hm')
    · exact List.mem_append_right _ (hmore m' hm')

/-- A document without the optional members reads as one with their defaults. -/
theorem memberValues_document (hnodup : ((members ++ optional).map Prod.fst).Nodup) :
    memberValues (members.map Prod.fst) optional (document members) =
      some (members.map Prod.snd ++ optional.map Prod.snd) := by
  have hmembers : (members.map Prod.fst).Nodup := by
    rw [List.map_append] at hnodup
    exact hnodup.of_append_left
  have h := @memberValues_document_append members [] optional (by simpa using hmembers) nofun
  rw [List.append_nil] at h
  rw [h]
  congr 2
  refine List.map_congr_left fun o ho => ?_
  rw [get_document_eq_none, Option.getD_none]
  rw [List.map_append] at hnodup
  exact fun hmem => (List.nodup_append.mp hnodup).2.2 _ hmem _ (List.mem_map_of_mem ho) rfl

/-- A document of a contract without optional members has the values of its members. -/
lemma memberValues_document_exact (hnodup : (members.map Prod.fst).Nodup) :
    memberValues (members.map Prod.fst) [] (document members) = some (members.map Prod.snd) := by
  have h := @memberValues_document members [] (by simpa using hnodup)
  rwa [List.map_nil, List.append_nil] at h

/-- A document with the optional members has their values. -/
theorem memberValues_document_full (hnodup : ((members ++ more).map Prod.fst).Nodup)
    (hmore : more.map Prod.fst = optional.map Prod.fst) :
    memberValues (members.map Prod.fst) optional (document (members ++ more)) =
      some (members.map Prod.snd ++ more.map Prod.snd) := by
  rw [memberValues_document_append hnodup fun m hm => hmore ▸ List.mem_map_of_mem hm]
  congr 2
  have hforall : List.Forall₂ (fun o m => o.1 = m.1) optional more := by
    have hkeys : List.Forall₂ (· = ·) (optional.map Prod.fst) (more.map Prod.fst) := by
      rw [hmore]
      exact List.forall₂_refl _
    rw [List.forall₂_map_left_iff, List.forall₂_map_right_iff] at hkeys
    exact hkeys
  have hget : ∀ m ∈ more, Dict.get (Sorting.sortOn Prod.fst ((members ++ more).map fun m => (m.1.toList, m.2)))
      m.1.toList = some m.2 := fun m hm => get_document hnodup (List.mem_append_right _ hm)
  generalize Dict.get (Sorting.sortOn Prod.fst ((members ++ more).map fun m => (m.1.toList, m.2))) = get at hget ⊢
  clear hnodup hmore
  induction hforall with
  | nil => rfl
  | cons heq _ ih =>
    rw [List.map_cons, List.map_cons, ih fun m hm => hget m (List.mem_cons_of_mem _ hm), heq,
      hget _ List.mem_cons_self, Option.getD_some]

/-- A document does not depend on the order in which its members are listed. -/
lemma document_congr {members' : List (String × Json)} (hperm : members.Perm members')
    (hnodup : (members.map Prod.fst).Nodup) : document members = document members' := by
  rw [document, document]
  congr 1
  refine Sorting.sortOn_congr (hperm.map _) ?_
  rw [List.map_map]
  have hkeys := hnodup.map toList_injective
  rw [List.map_map] at hkeys
  exact hkeys

/-- A document of well-keyed values is well keyed. -/
lemma wellKeyed_document (hnodup : (members.map Prod.fst).Nodup) (hvalues : ∀ m ∈ members, m.2.WellKeyed) :
    (document members).WellKeyed := by
  refine ⟨nodup_keys_document hnodup, Json.wellKeyedMembers_iff.mpr fun m hm => ?_⟩
  obtain ⟨m', hm', rfl⟩ := List.mem_map.mp (Sorting.mem_sortOn.mp hm)
  exact hvalues m' hm'

end Members

/-! ## Values -/

/-- A string. -/
def readText : Json → Option String
  | .str s => some (String.ofList s)
  | _ => none

/-- An integer. -/
def readInt : Json → Option ℤ
  | .num n => some n
  | _ => none

/-- A truth value. -/
def readBool : Json → Option Bool
  | .bool b => some b
  | _ => none

/-- A value that may be null. -/
def readOptional {α : Type} (read : Json → Option α) : Json → Option (Option α)
  | .null => some none
  | j => (read j).map some

/-- An array. -/
def readList {α : Type} (read : Json → Option α) : Json → Option (List α)
  | .arr items => items.mapM read
  | _ => none

/-- A `Literal` of strings: the member of `all` with this text. -/
def readLiteral {α : Type} (all : List α) (name : α → String) (j : Json) : Option α :=
  (readText j).bind fun s => all.find? fun a => name a = s

section Values

variable {α : Type}

@[simp] lemma readText_text (s : String) : readText (text s) = some s := by
  rw [text, readText, String.ofList_toList]

@[simp] lemma readInt_num (n : ℤ) : readInt (.num n) = some n := rfl

@[simp] lemma readBool_bool (b : Bool) : readBool (.bool b) = some b := rfl

@[simp] lemma readOptional_null {read : Json → Option α} : readOptional read .null = some none := rfl

/-- A value that may be null is read back where its rendering is and is not null. -/
lemma readOptional_optional {read : Json → Option α} {render : α → Json} {a : Option α}
    (h : ∀ x ∈ a, render x ≠ .null ∧ read (render x) = some x) : readOptional read (optional render a) = some a := by
  cases a with
  | none => rfl
  | some x =>
    obtain ⟨hnull, hread⟩ := h x rfl
    rw [optional]
    unfold readOptional
    split
    · rename_i heq
      exact absurd heq hnull
    · rw [hread, Option.map_some]

@[simp] lemma readOptional_text (a : Option String) : readOptional readText (optional text a) = some a :=
  readOptional_optional fun x _ => ⟨nofun, readText_text x⟩

@[simp] lemma readOptional_num (a : Option ℤ) : readOptional readInt (optional .num a) = some a :=
  readOptional_optional fun x _ => ⟨nofun, readInt_num x⟩

lemma readList_arr {read : Json → Option α} {render : α → Json} {l : List α}
    (h : ∀ x ∈ l, read (render x) = some x) : readList read (.arr (l.map render)) = some l := by
  rw [readList, List.mapM_map]
  exact (mapM_eq_some h).trans (by rw [List.map_id'])

lemma readLiteral_text {all : List α} {name : α → String} (hnodup : (all.map name).Nodup) {a : α} (ha : a ∈ all) :
    readLiteral all name (text (name a)) = some a := by
  rw [readLiteral, readText_text, Option.bind_some]
  obtain ⟨b, hb⟩ : ∃ b, all.find? (fun b => name b = name a) = some b := by
    rw [← Option.isSome_iff_exists, List.find?_isSome]
    exact ⟨a, ha, by simp⟩
  have heq : name b = name a := by simpa using List.find?_some hb
  rw [hb, List.inj_on_of_nodup_map hnodup (List.mem_of_find?_eq_some hb) ha heq]

lemma readOptional_literal {all : List α} {name : α → String} (hnodup : (all.map name).Nodup) {a : Option α}
    (ha : ∀ x ∈ a, x ∈ all) : readOptional (readLiteral all name) (optional (fun x => text (name x)) a) = some a :=
  readOptional_optional fun x hx => ⟨nofun, readLiteral_text hnodup (ha x hx)⟩

end Values

/-! ## Models -/

/-- A contract: the documents of its values and how a document is read, and which values it admits. -/
structure Model (α : Type) where
  toJson : α → Json
  ofJson : Json → Option α
  Valid : α → Prop
  decidable : DecidablePred Valid
  /-- A valid value is read back from its document. -/
  ofJson_toJson : ∀ a, Valid a → ofJson (toJson a) = some a
  /-- No key stands twice in a document. -/
  wellKeyed : ∀ a, Valid a → (toJson a).WellKeyed

namespace Model

variable {α : Type} (m : Model α)

instance : DecidablePred m.Valid := m.decidable

/-- Canonical JSON plus exactly one trailing newline. -/
def bytes (a : α) : List UInt8 := canonicalJson (m.toJson a) ++ [10]

/-- `model_bytes`, which validates the value again. -/
def modelBytes (a : α) : Except String (List UInt8) := do
  Except.reject (¬ m.Valid a) "validation_error"
  return m.bytes a

/-- `parse_model`. -/
def parse (maximumBytes : ℕ) (rendered : List UInt8) : Except String α := do
  Except.reject (rendered = [] ∨ maximumBytes < rendered.length) "document_size_invalid"
  match (Static.asciiText rendered).bind fun s => (Json.parse s).bind m.ofJson with
  | none => .error "document_invalid"
  | some a =>
    Except.reject (¬ m.Valid a) "document_invalid"
    Except.reject (rendered ≠ m.bytes a) "document_not_canonical"
    .ok a

end Model

/-! ## Canonical bytes -/

/-- The characters of canonical JSON are printable. -/
lemma printable_render (j : Json) : ∀ c ∈ j.render Static.pythonEscape, Json.Printable c := by
  have hcoded : ∀ c, ¬ Json.Printable c → Static.pythonCoded c = true := by
    intro c hc
    rw [Static.pythonCoded, Bool.not_eq_true', Bool.and_eq_false_iff, decide_eq_false_iff_not, decide_eq_false_iff_not]
    by_contra hnot
    rw [not_or, not_not, not_not] at hnot
    exact hc hnot
  exact Json.printable_render (P := fun _ => True) (fun c _ => Json.printable_escapeWith hcoded c)
    (Json.allChars_of_forall (fun _ => trivial) j)

lemma canonicalJson_append (j : Json) :
    canonicalJson j ++ [10] = Text.bytes (j.render Static.pythonEscape ++ ['\n']) := by
  rw [canonicalJson, Text.bytes, Text.bytes, List.flatMap_append]
  rfl

/-- **Canonical bytes are decoded.** -/
lemma parse_canonicalJson {j : Json} (hkeys : j.WellKeyed) :
    ((Static.asciiText (canonicalJson j ++ [10])).bind fun s => Json.parse s) = some j := by
  have hascii : Text.IsAscii (j.render Static.pythonEscape ++ ['\n']) := by
    intro c hc
    rcases List.mem_append.mp hc with hc | hc
    · have := (printable_render j c hc).2
      omega
    · rw [List.mem_singleton.mp hc]
      decide
  rw [canonicalJson_append, Static.asciiText_bytes hascii, Option.bind_some]
  exact Json.parse_render Static.faithful_pythonEscape hkeys (by decide)

/-- Canonical JSON is within one line. -/
lemma newline_notMem (j : Json) : (10 : UInt8) ∉ canonicalJson j := by
  have hascii : Text.IsAscii (j.render Static.pythonEscape) := fun c hc => by
    have := (printable_render j c hc).2
    omega
  rw [canonicalJson, Text.bytes_eq_map hascii, List.mem_map]
  rintro ⟨c, hc, heq⟩
  have hlow := (printable_render j c hc).1
  have hcode := Text.toUInt8_toNat (hascii c hc)
  rw [heq] at hcode
  have : (10 : UInt8).toNat = 10 := rfl
  omega

/-- Canonical JSON is within the cost of its document. -/
lemma length_canonicalJson_le (j : Json) : (canonicalJson j).length ≤ j.cost := by
  have hascii : Text.IsAscii (j.render Static.pythonEscape) := fun c hc => by
    have := (printable_render j c hc).2
    omega
  have hcoded : ∀ c, Json.Printable c → Static.pythonCoded c = false := by
    intro c hc
    rw [Static.pythonCoded, Bool.not_eq_false', Bool.and_eq_true, decide_eq_true_iff, decide_eq_true_iff]
    exact hc
  rw [canonicalJson, Text.bytes_eq_map hascii, List.length_map]
  exact Json.length_render_le (Json.length_escapeWith_le hcoded) j

/-- The cost of a document is the sum over its members. -/
lemma cost_document (members : List (String × Json)) : (document members).cost =
    2 + (members.map fun m => Json.textCost m.1.toList + m.2.cost + 2).sum := by
  have hperm := (Sorting.sortOn_perm Prod.fst (members.map fun m => (m.1.toList, m.2))).map
    fun m : List Char × Json => Json.textCost m.1 + m.2.cost + 2
  rw [document, Json.cost, Json.costMembers_eq_sum, hperm.sum_eq, List.map_map]
  change 1 + ((members.map fun m => Json.textCost m.1.toList + m.2.cost + 2).sum + 1) = _
  omega

namespace Model

variable {α : Type} (m : Model α)

/-- **The parser accepts the canonical bytes of the valid values within its limit**, and nothing else. -/
theorem parse_eq_ok_iff {maximumBytes : ℕ} {rendered : List UInt8} {a : α} :
    m.parse maximumBytes rendered = .ok a ↔
      m.Valid a ∧ rendered = m.bytes a ∧ rendered.length ≤ maximumBytes := by
  constructor
  · intro h
    simp only [parse, Except.bind_eq_ok, Except.reject_eq_ok, exists_const, not_or, not_lt] at h
    obtain ⟨⟨-, hlength⟩, h⟩ := h
    split at h
    · cases h
    · simp only [Except.bind_eq_ok, Except.reject_eq_ok, exists_const, not_not, Except.ok.injEq] at h
      obtain ⟨hvalid, hcanonical, rfl⟩ := h
      exact ⟨hvalid, hcanonical, hlength⟩
  · rintro ⟨hvalid, rfl, hlength⟩
    have hread : ((Static.asciiText (m.bytes a)).bind fun s => (Json.parse s).bind m.ofJson) = some a := by
      have h := parse_canonicalJson (m.wellKeyed a hvalid)
      obtain ⟨s, hs, hparse⟩ := Option.bind_eq_some_iff.mp h
      rw [bytes, hs, Option.bind_some, hparse, Option.bind_some, m.ofJson_toJson a hvalid]
    have hne : ¬ (m.bytes a = [] ∨ maximumBytes < (m.bytes a).length) := by
      rw [not_or, not_lt]
      exact ⟨by simp [bytes], hlength⟩
    simp only [parse, hread, Except.bind_eq_ok, Except.reject_eq_ok, exists_const, hvalid, not_true_eq_false,
      not_false_eq_true, ne_eq, and_self, hne]

/-- The canonical bytes are bounded by the cost of the document. -/
lemma length_bytes_le (a : α) : (m.bytes a).length ≤ (m.toJson a).cost + 1 := by
  rw [bytes, List.length_append]
  exact Nat.add_le_add_right (length_canonicalJson_le _) 1

/-- Different values have different canonical bytes. -/
lemma bytes_inj {a b : α} (ha : m.Valid a) (hb : m.Valid b) (h : m.bytes a = m.bytes b) : a = b := by
  have hparse := m.parse_eq_ok_iff.mpr ⟨ha, rfl, le_refl (m.bytes a).length⟩
  have hparse' := m.parse_eq_ok_iff.mpr ⟨hb, h, le_refl (m.bytes a).length⟩
  exact Except.ok.inj (hparse.symm.trans hparse')

lemma modelBytes_eq_ok_iff {a : α} {b : List UInt8} : m.modelBytes a = .ok b ↔ m.Valid a ∧ b = m.bytes a := by
  rw [modelBytes, Except.bind_eq_ok]
  simp only [Except.reject_eq_ok, exists_const, not_not, pure, Except.pure, Except.ok.injEq]
  rw [eq_comm (a := b)]

end Model

end Contract

end Misscomputer
