import Mathlib.Logic.Relation
import Mathlib.Data.List.Basic
import Mathlib.Tactic.Lemma

set_option relaxedAutoImplicit false
set_option autoImplicit false

/-!
# Machines that answer requests

A machine is a step function: in a state it takes a request, moves to the next state and
answers. A run is the fold of the step function over a list of requests. The two rules below
are the only inductions over runs: a property kept by every step holds after every run, and a
preorder that relates the two ends of every step relates the two ends of every run.

## Main definitions

* `Machine.next`, `Machine.answer` — the two halves of one step.
* `Machine.run` — the state after a list of requests.
* `Machine.trace` — what the requests of a run answer, where each one answers a list.
* `Machine.Meets` — every request of a run meets a condition on the state it is served in.

## Main results

* `Machine.run_invariant` — the invariant rule.
* `Machine.Meets.run_invariant` — the invariant rule for runs that meet a condition.
* `Machine.run_iff_meets` — the exact condition under which a run keeps a property.
* `Machine.run_rel` — the preorder rule, relative to an invariant.
* `Machine.run_history` — the invariant rule for a state together with what was observed up to it.
-/

namespace Machine

variable {σ ι α : Type*} (step : σ → ι → σ × α)

/-- The state after one request. -/
def next (s : σ) (i : ι) : σ := (step s i).1

/-- The answer to one request. -/
def answer (s : σ) (i : ι) : α := (step s i).2

/-- The state after a list of requests, served in order. -/
def run (s : σ) (is : List ι) : σ := is.foldl (next step) s

@[simp] lemma run_nil (s : σ) : run step s [] = s := rfl

@[simp] lemma run_cons (s : σ) (i : ι) (is : List ι) :
    run step s (i :: is) = run step (next step s i) is := rfl

lemma run_append (s : σ) (is js : List ι) :
    run step s (is ++ js) = run step (run step s is) js := by
  simp [run]

/-- Every request of the run meets the condition `C` in the state it is served in. -/
def Meets (C : σ → ι → Prop) : σ → List ι → Prop
  | _, [] => True
  | s, i :: is => C s i ∧ Meets C (next step s i) is

/-- What the requests of a run answer, in order, where each one answers a list. -/
def trace {β : Type*} (step : σ → ι → σ × List β) : σ → List ι → List β
  | _, [] => []
  | s, i :: is => answer step s i ++ trace step (next step s i) is

lemma trace_append {β : Type*} (step : σ → ι → σ × List β) (s : σ) (is js : List ι) :
    trace step s (is ++ js) = trace step s is ++ trace step (run step s is) js := by
  induction is generalizing s with
  | nil => rfl
  | cons i is ih => simp [trace, ih]

/-- What a run observes after a number of requests. -/
lemma mem_trace_of_answer {β : Type*} {step : σ → ι → σ × List β} {s : σ} {is js : List ι} {i : ι}
    {b : β} (h : b ∈ answer step (run step s is) i) : b ∈ trace step s (is ++ i :: js) := by
  rw [trace_append, trace]
  exact List.mem_append_right _ (List.mem_append_left _ h)

variable {step}

/-- **The invariant rule.** A property that every request of the run keeps holds after it. -/
lemma run_invariant {P : σ → Prop} {is : List ι}
    (hstep : ∀ s, P s → ∀ i ∈ is, P (next step s i)) {s : σ} (h : P s) : P (run step s is) := by
  induction is generalizing s with
  | nil => exact h
  | cons i is ih =>
    rw [run_cons]
    exact ih (fun s hs j hj => hstep s hs j (List.mem_cons_of_mem _ hj))
      (hstep s h i List.mem_cons_self)

/-- **The invariant rule under a condition.** A property that every request kept where it meets the
condition holds after a run that meets it throughout. -/
lemma Meets.run_invariant {C : σ → ι → Prop} {P : σ → Prop}
    (hstep : ∀ s i, P s → C s i → P (next step s i)) {s : σ} {is : List ι}
    (hmeets : Meets step C s is) (h : P s) : P (run step s is) := by
  induction is generalizing s with
  | nil => exact h
  | cons i is ih =>
    obtain ⟨hC, hrest⟩ := hmeets
    rw [run_cons]
    exact ih hrest (hstep s i h hC)

/-- A property that no request brings back holds at the start of a run that ends in it. -/
lemma of_run {Q : σ → Prop} (hback : ∀ s i, Q (next step s i) → Q s) {s : σ} {is : List ι} (h : Q (run step s is)) :
    Q s := by
  induction is generalizing s with
  | nil => exact h
  | cons i is ih =>
    rw [run_cons] at h
    exact hback s i (ih h)

/-- **The exact condition of a run.** Where, under an invariant, a request keeps the property `Q` just when it meets
the condition `C`, and no request brings `Q` back, a run keeps `Q` just when all its requests meet `C`. -/
lemma run_iff_meets {P Q : σ → Prop} {C : σ → ι → Prop} (hP : ∀ s i, P s → P (next step s i))
    (hstep : ∀ s i, P s → Q s → (Q (next step s i) ↔ C s i)) (hback : ∀ s i, Q (next step s i) → Q s)
    {s : σ} (h : P s) (hQ : Q s) {is : List ι} : Q (run step s is) ↔ Meets step C s is := by
  induction is generalizing s with
  | nil => exact iff_of_true hQ trivial
  | cons i is ih =>
    rw [run_cons, Meets]
    constructor
    · intro hrun
      have hnext : Q (next step s i) := of_run hback hrun
      exact ⟨(hstep s i h hQ).mp hnext, (ih (hP s i h) hnext).mp hrun⟩
    · rintro ⟨hC, hrest⟩
      exact (ih (hP s i h) ((hstep s i h hQ).mpr hC)).mpr hrest

/-- **The preorder rule.** If every request of the run, served in a state with the invariant `P`,
keeps `P` and relates the states before and after it by a preorder `R`, then the whole run does. -/
lemma run_rel {P : σ → Prop} {R : σ → σ → Prop} (hrefl : ∀ s, R s s)
    (htrans : ∀ a b c, R a b → R b c → R a c) {is : List ι}
    (hstep : ∀ s, P s → ∀ i ∈ is, P (next step s i) ∧ R s (next step s i)) {s : σ} (h : P s) :
    R s (run step s is) := by
  induction is generalizing s with
  | nil => exact hrefl s
  | cons i is ih =>
    rw [run_cons]
    obtain ⟨hP, hR⟩ := hstep s h i List.mem_cons_self
    exact htrans _ _ _ hR (ih (fun s hs j hj => hstep s hs j (List.mem_cons_of_mem _ hj)) hP)

/-- **The history rule.** A property of the state and of what was observed so far, which every request
of the run keeps when it is served where the run serves it, holds after the run. -/
lemma run_history {β : Type*} {step : σ → ι → σ × List β} {J : σ → List β → Prop} {s : σ}
    {is : List ι} {seen : List β}
    (hstep : ∀ before i after t obs, is = before ++ i :: after → t = run step s before → J t obs →
      J (next step t i) (obs ++ answer step t i)) (h : J s seen) :
    J (run step s is) (seen ++ trace step s is) := by
  induction is generalizing s seen with
  | nil => simpa [trace] using h
  | cons i is ih =>
    rw [run_cons, trace, ← List.append_assoc]
    refine ih (fun before j after t obs heq ht hJ => ?_) (hstep [] i is s seen rfl rfl h)
    exact hstep (i :: before) j after t obs (by rw [heq, List.cons_append]) (by rw [ht, run_cons]) hJ

end Machine
