import Mathlib.Data.List.Basic
import Mathlib.Tactic.Lemma

set_option relaxedAutoImplicit false
set_option autoImplicit false

/-!
# Chains linked by digests

Every entry of a chain names the digest of the entry before it, and the first names none. Where no two entries
share a digest, the digest of the last entry determines the whole chain.

## Main definitions

* `HashChain.Linked` — the entries of a chain, from the last to the first, and its head.

## Main results

* `HashChain.Linked.unique` — the head determines the chain.
-/

namespace HashChain

variable {α δ : Type*} (digest : α → δ) (previous : α → Option δ)

/-- The entries, from the last to the first, of the chain whose last entry has the digest `head`. -/
def Linked : List α → Option δ → Prop
  | [], head => head = none
  | a :: older, head => head = some (digest a) ∧ Linked older (previous a)

variable {digest previous}

/-- **The head determines the chain.** Two chains with the same head are equal, when entries of them with equal
digests are equal.

**Proof sketch.** The last entries have the same digest and so are the same. What they name is then the same
head of what remains. -/
lemma Linked.unique {l l' : List α} {head : Option δ} (h : Linked digest previous l head)
    (h' : Linked digest previous l' head) (hinj : ∀ a ∈ l, ∀ b ∈ l', digest a = digest b → a = b) : l = l' := by
  induction l generalizing l' head with
  | nil =>
    obtain rfl : head = none := h
    cases l' with
    | nil => rfl
    | cons b older => exact absurd h'.1 (by simp)
  | cons a older ih =>
    obtain ⟨hhead, hrest⟩ := h
    cases l' with
    | nil =>
      have hnone : head = none := h'
      exact absurd (hhead.symm.trans hnone) (by simp)
    | cons b older' =>
      obtain ⟨hhead', hrest'⟩ := h'
      have hdigest : digest a = digest b := Option.some.inj (hhead.symm.trans hhead')
      obtain rfl := hinj a List.mem_cons_self b List.mem_cons_self hdigest
      rw [ih hrest hrest' fun c hc d hd =>
        hinj c (List.mem_cons_of_mem _ hc) d (List.mem_cons_of_mem _ hd)]

end HashChain
