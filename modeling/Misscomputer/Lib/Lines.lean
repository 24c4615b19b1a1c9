import Mathlib.Data.List.Induction
import Mathlib.Tactic.Lemma

set_option relaxedAutoImplicit false
set_option autoImplicit false

/-!
# Lines

A text made of lines, each ended by a separator that stands nowhere else, and the lines of a text.

## Main definitions

* `Lines.join`, `Lines.split` — the text of some lines, and the lines of a text.
* `Lines.Ended` — the text is empty or ends with the separator.

## Main results

* `Lines.split_join` — the lines are read back.
* `Lines.join_split` — a text that is ended is the text of its lines.
-/

namespace Lines

variable {α : Type} [DecidableEq α] {a : α}

/-- The text of lines, each ended by the separator. -/
def join (a : α) (lines : List (List α)) : List α := lines.flatMap fun line => line ++ [a]

/-- The lines of a text: what stands before each separator. -/
def split (a : α) (s : List α) : List (List α) := (s.splitOn a).dropLast

/-- The text is empty or ends with the separator. -/
def Ended (a : α) (s : List α) : Prop := s ≠ [] → s.getLast? = some a

instance (a : α) (s : List α) : Decidable (Ended a s) := inferInstanceAs (Decidable (_ → _))

omit [DecidableEq α] in
@[simp] lemma join_nil : join a [] = [] := rfl

omit [DecidableEq α] in
@[simp] lemma join_cons (line : List α) (lines : List (List α)) :
    join a (line :: lines) = line ++ a :: join a lines := by
  rw [join, List.flatMap_cons, List.append_assoc]
  rfl

omit [DecidableEq α] in
lemma join_append (lines lines' : List (List α)) : join a (lines ++ lines') = join a lines ++ join a lines' :=
  List.flatMap_append

omit [DecidableEq α] in
/-- A text of lines is ended. -/
lemma ended_join (lines : List (List α)) : Ended a (join a lines) := by
  intro hne
  induction lines using List.reverseRecOn with
  | nil => exact absurd rfl hne
  | append_singleton lines line _ =>
    rw [join_append, join_cons, join_nil, List.getLast?_append, List.getLast?_append]
    rfl

/-- **The lines are read back** from their text, as long as none has the separator in it. -/
theorem split_join {lines : List (List α)} (h : ∀ line ∈ lines, a ∉ line) : split a (join a lines) = lines := by
  induction lines with
  | nil => rfl
  | cons line lines ih =>
    rw [List.forall_mem_cons] at h
    have hsplit := List.splitOn_append_cons_self_of_not_mem h.1 (join a lines)
    rw [join_cons, split, hsplit, List.dropLast_cons_of_ne_nil (List.splitOn_ne_nil a _)]
    exact congrArg _ (ih h.2)

/-- The lines of a text and what follows the last separator are the text.

**Proof sketch.** Induction on the text: a separator starts with an empty line, any other letter goes in front of
the first line, or of the rest where there is none. -/
lemma join_split_append (s : List α) : ∃ rest, join a (split a s) ++ rest = s ∧ a ∉ rest := by
  induction s with
  | nil => exact ⟨[], rfl, List.not_mem_nil⟩
  | cons x s ih =>
    obtain ⟨rest, hjoin, hrest⟩ := ih
    rw [split, List.splitOn_cons_eq_if_modifyHead]
    by_cases hx : x = a
    · subst hx
      rw [if_pos (beq_self_eq_true x), List.dropLast_cons_of_ne_nil (List.splitOn_ne_nil x _)]
      refine ⟨rest, ?_, hrest⟩
      rw [join_cons]
      exact congrArg _ hjoin
    · rw [if_neg (by simpa using hx)]
      rw [split] at hjoin
      cases hparts : s.splitOn a with
      | nil => exact absurd hparts (List.splitOn_ne_nil a s)
      | cons part parts =>
        rw [hparts] at hjoin
        rw [List.modifyHead_cons]
        cases parts with
        | nil =>
          have hrest' : rest = s := hjoin
          refine ⟨x :: rest, congrArg (x :: ·) hrest', ?_⟩
          rw [List.mem_cons, not_or]
          exact ⟨Ne.symm hx, hrest⟩
        | cons part' parts =>
          refine ⟨rest, ?_, hrest⟩
          rw [List.dropLast_cons_of_ne_nil (List.cons_ne_nil _ _), join_cons] at hjoin ⊢
          exact congrArg _ hjoin

/-- **A text that is ended is that of its lines.** -/
theorem join_split {s : List α} (h : Ended a s) : join a (split a s) = s := by
  obtain ⟨rest, hjoin, hrest⟩ := join_split_append (a := a) s
  cases rest with
  | nil => rw [List.append_nil] at hjoin; exact hjoin
  | cons x rest =>
    have hne : s ≠ [] := by
      rintro rfl
      simp at hjoin
    have hlast := h hne
    rw [← hjoin, List.getLast?_append, List.getLast?_eq_some_getLast (List.cons_ne_nil x rest),
      Option.some_or] at hlast
    exact absurd (Option.some.inj hlast ▸ List.getLast_mem _) hrest

end Lines
