import Mathlib.Data.List.Basic
import Mathlib.Tactic.Lemma

set_option relaxedAutoImplicit false
set_option autoImplicit false

/-!
# Logs with a barrier

A log whose entries have keys, and of which some are live. Under a key with a live entry nothing is appended, and only live
entries are changed. So an entry can be live as the last one of its key only, and whether a key is blocked is decided behind
any of its dead entries.

## Main definitions

* `Barrier.Guarded` — only the last entry of a key may be live.
* `Barrier.Blocked` — a key has a live entry.

## Main results

* `Barrier.Guarded.concat`, `Barrier.Guarded.update` — what may be done to a log keeps it guarded.
* `Barrier.Guarded.blocked_iff` — what comes before an entry of a key does not block the key.
-/

namespace Barrier

variable {α κ : Type*}

/-- Only the last entry of a key may be live. -/
def Guarded (key : α → κ) (live : α → Prop) (l : List α) : Prop := l.Pairwise fun a b => key a = key b → ¬ live a

/-- An entry of the key is live. -/
def Blocked (key : α → κ) (live : α → Prop) (l : List α) (k : κ) : Prop := ∃ a ∈ l, key a = k ∧ live a

variable {key : α → κ} {live : α → Prop} {l before after : List α} {a b : α}

lemma guarded_nil : Guarded key live [] := List.Pairwise.nil

/-- **Appending.** An entry may be appended under a key that is not blocked. -/
lemma Guarded.concat (h : Guarded key live l) (hfree : ¬ Blocked key live l (key a)) : Guarded key live (l ++ [a]) := by
  refine List.pairwise_append.mpr ⟨h, List.pairwise_singleton _ _, fun x hx y hy hkey hlive => ?_⟩
  obtain rfl := List.mem_singleton.mp hy
  exact hfree ⟨x, hx, hkey, hlive⟩

/-- **Changing.** A live entry may be changed, as long as it keeps its key.

**Proof sketch.** The entries before it are related to it as before. No later entry has its key, since it is live. -/
lemma Guarded.update (h : Guarded key live (before ++ a :: after)) (hlive : live a) (hkey : key b = key a) :
    Guarded key live (before ++ b :: after) := by
  obtain ⟨hbefore, hafter, hacross⟩ := List.pairwise_append.mp h
  obtain ⟨hnext, hrest⟩ := List.pairwise_cons.mp hafter
  refine List.pairwise_append.mpr ⟨hbefore, List.pairwise_cons.mpr ⟨fun y hy hby => ?_, hrest⟩, fun x hx y hy => ?_⟩
  · exact absurd hlive (hnext y hy (hkey ▸ hby))
  · rcases List.mem_cons.mp hy with rfl | hy
    · rw [hkey]
      exact hacross x hx a List.mem_cons_self
    · exact hacross x hx y (List.mem_cons_of_mem _ hy)

/-- **Looking behind an entry.** Behind a dead entry the log decides whether its key is blocked. -/
theorem Guarded.blocked_iff (h : Guarded key live (before ++ a :: after)) (hdead : ¬ live a) :
    Blocked key live (before ++ a :: after) (key a) ↔ Blocked key live after (key a) := by
  constructor
  · rintro ⟨x, hx, hkey, hlive⟩
    rcases List.mem_append.mp hx with hx | hx
    · exact absurd hlive ((List.pairwise_append.mp h).2.2 x hx a List.mem_cons_self hkey)
    · rcases List.mem_cons.mp hx with rfl | hx
      · exact absurd hlive hdead
      · exact ⟨x, hx, hkey, hlive⟩
  · rintro ⟨x, hx, hkey, hlive⟩
    exact ⟨x, List.mem_append_right _ (List.mem_cons_of_mem _ hx), hkey, hlive⟩

end Barrier
