import Mathlib.Tactic.Lemma
import Mathlib.Data.List.Induction

set_option relaxedAutoImplicit false
set_option autoImplicit false

/-!
# Inverting computations that may fail

A computation in `Except` that returned has returned at each of its steps.

## Main results

* `Except.bind_eq_ok` — the step rule.
* `Except.forM_eq_ok` — the loop rule.
* `Except.foldlM_eq_ok` — the rule for a loop that carries what it has seen.
* `Except.exists_of_foldlM_eq_error` — where a loop failed.
-/

namespace Except

universe u v

variable {ε : Type u} {α β : Type v}

/-- A sequence of two steps returned `b` exactly when the first returned some `a` and the second,
continued from `a`, returned `b`. -/
lemma bind_eq_ok {x : Except ε α} {f : α → Except ε β} {b : β} :
    (x >>= f) = .ok b ↔ ∃ a, x = .ok a ∧ f a = .ok b := by
  cases x with
  | error e => simp [bind, Except.bind]
  | ok a => simp [bind, Except.bind]

/-- Fail with `e` when `p` holds. -/
def reject {ε : Type u} (p : Prop) [Decidable p] (e : ε) : Except ε Unit :=
  if p then .error e else .ok ()

@[simp] lemma reject_eq_ok {ε : Type u} {p : Prop} [Decidable p] {e : ε} {a : Unit} :
    reject p e = .ok a ↔ ¬ p := by
  unfold reject
  split <;> simp_all

/-- Renaming the failures changes no result. -/
lemma mapError_eq_ok {ε' : Type u} {f : ε → ε'} {x : Except ε α} {a : α} :
    x.mapError f = .ok a ↔ x = .ok a := by
  cases x with
  | error e => simp [Except.mapError]
  | ok a => simp [Except.mapError]

/-- A loop returned exactly when its body returned at every element. -/
lemma forM_eq_ok {ε : Type u} {α : Type} {f : α → Except ε Unit} {l : List α} {u : Unit} :
    l.forM f = .ok u ↔ ∀ a ∈ l, f a = .ok () := by
  induction l with
  | nil => exact ⟨fun _ _ h => absurd h List.not_mem_nil, fun _ => rfl⟩
  | cons a l ih =>
    change (f a >>= fun _ => l.forM f) = .ok u ↔ _
    rw [bind_eq_ok, List.forall_mem_cons, ← ih]
    constructor
    · rintro ⟨u, ha, hl⟩
      exact ⟨ha, hl⟩
    · rintro ⟨ha, hl⟩
      exact ⟨(), ha, hl⟩

/-- **A loop that carries what it has seen.** Let `σ l` be the loop's state after the elements of `l`, and
let one round from there succeed exactly when `P` goes on to hold. Then the loop returned exactly when `P`
holds of all its elements, in the state that goes with them.

**Proof sketch.** Induction on the list from its end. -/
lemma foldlM_eq_ok {ε : Type u} {α σ : Type} {f : σ → α → Except ε σ} {after : List α → σ}
    {P : List α → Prop} (hnil : P []) (hinit : ∀ l a, P (l ++ [a]) → P l)
    (hround : ∀ l a s, P l → (f (after l) a = .ok s ↔ P (l ++ [a]) ∧ s = after (l ++ [a])))
    {l : List α} {s : σ} : l.foldlM f (after []) = .ok s ↔ P l ∧ s = after l := by
  induction l using List.reverseRecOn generalizing s with
  | nil =>
    change Except.ok (after []) = .ok s ↔ _
    rw [Except.ok.injEq]
    exact ⟨fun h => ⟨hnil, h.symm⟩, fun h => h.2.symm⟩
  | append_singleton l a ih =>
    rw [List.foldlM_append, bind_eq_ok]
    have hlast : ∀ s', [a].foldlM f s' = f s' a := by
      intro s'
      rw [List.foldlM_cons]
      cases f s' a <;> rfl
    simp only [hlast, ih]
    constructor
    · rintro ⟨_, ⟨hl, rfl⟩, hs⟩
      exact (hround l a s hl).mp hs
    · rintro ⟨hP, hs⟩
      have hl := hinit l a hP
      exact ⟨_, ⟨hl, rfl⟩, (hround l a s hl).mpr ⟨hP, hs⟩⟩

/-- A loop that failed has failed at one of its rounds. -/
lemma exists_of_foldlM_eq_error {ε : Type u} {α σ : Type} {f : σ → α → Except ε σ} {l : List α} {s : σ}
    {e : ε} (h : l.foldlM f s = .error e) : ∃ a ∈ l, ∃ s', f s' a = .error e := by
  induction l generalizing s with
  | nil => cases h
  | cons a l ih =>
    rw [List.foldlM_cons] at h
    cases hround : f s a with
    | error e' =>
      rw [hround] at h
      obtain rfl := Except.error.inj h
      exact ⟨a, List.mem_cons_self, s, hround⟩
    | ok s' =>
      rw [hround] at h
      obtain ⟨b, hb, hfail⟩ := ih h
      exact ⟨b, List.mem_cons_of_mem _ hb, hfail⟩

end Except
