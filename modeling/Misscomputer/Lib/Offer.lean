import Misscomputer.Lib.Machine

set_option relaxedAutoImplicit false
set_option autoImplicit false

/-!
# Offers that may be refused

A party in a state is offered something. It refuses with an error, and its state is as it was, or it takes
the offer, moves on and says with what result. The rules below carry a property of the state, or a relation
between two parties, from one offer to all the offers of a run.

## Main definitions

* `Offer.step` — one offer, as the step of a machine that answers with the offer and its outcome.
* `Offer.run` — the state after a list of offers.
* `Offer.outcomes` — what each of the offers came to.
* `Offer.taken` — the offers that were taken with a result that satisfies a condition.

## Main results

* `Offer.taken_induction` — the invariant rule for a state and what was taken up to it.
* `Offer.simulation` — two parties that answer alike, and stay related, do so in every run.

## Implementation notes

A run is a run of `Machine.run` and its outcomes are a trace of `Machine.trace`, so that the rules of machines
apply to it.
-/

namespace Offer

variable {σ τ μ ε β : Type*} (offer : σ → μ → Except ε (σ × β))

/-- One offer. -/
def step (s : σ) (m : μ) : σ × List (μ × Except ε β) :=
  match offer s m with
  | .ok (next, b) => (next, [(m, .ok b)])
  | .error e => (s, [(m, .error e)])

/-- The state after a list of offers, made in order. -/
def run (s : σ) (ms : List μ) : σ := Machine.run (step offer) s ms

/-- The offers of a run with their outcomes. -/
def log (s : σ) (ms : List μ) : List (μ × Except ε β) := Machine.trace (step offer) s ms

/-- The outcomes of the offers of a run. -/
def outcomes (s : σ) (ms : List μ) : List (Except ε β) := (log offer s ms).map Prod.snd

/-- An offer that was taken with a result in `p`. -/
def entry (p : β → Bool) : μ × Except ε β → Option μ
  | (m, .ok b) => if p b then some m else none
  | (_, .error _) => none

/-- The offers of a run that were taken with a result in `p`. -/
def taken (p : β → Bool) (s : σ) (ms : List μ) : List μ := (log offer s ms).filterMap (entry p)

variable {offer}

lemma step_of_ok {s s' : σ} {m : μ} {b : β} (h : offer s m = .ok (s', b)) :
    step offer s m = (s', [(m, .ok b)]) := by
  rw [step, h]

lemma step_of_error {s : σ} {m : μ} {e : ε} (h : offer s m = .error e) :
    step offer s m = (s, [(m, .error e)]) := by
  rw [step, h]

@[simp] lemma run_nil (s : σ) : run offer s [] = s := rfl

@[simp] lemma outcomes_nil (s : σ) : outcomes offer s [] = [] := rfl

@[simp] lemma taken_nil (p : β → Bool) (s : σ) : taken offer p s [] = [] := rfl

lemma run_cons_of_ok {s s' : σ} {m : μ} {ms : List μ} {b : β} (h : offer s m = .ok (s', b)) :
    run offer s (m :: ms) = run offer s' ms := by
  rw [run, Machine.run_cons, Machine.next, step_of_ok h, run]

lemma run_cons_of_error {s : σ} {m : μ} {ms : List μ} {e : ε} (h : offer s m = .error e) :
    run offer s (m :: ms) = run offer s ms := by
  rw [run, Machine.run_cons, Machine.next, step_of_error h, run]

lemma log_cons_of_ok {s s' : σ} {m : μ} {ms : List μ} {b : β} (h : offer s m = .ok (s', b)) :
    log offer s (m :: ms) = (m, .ok b) :: log offer s' ms := by
  rw [log, Machine.trace, Machine.answer, Machine.next, step_of_ok h, log]
  rfl

lemma log_cons_of_error {s : σ} {m : μ} {ms : List μ} {e : ε} (h : offer s m = .error e) :
    log offer s (m :: ms) = (m, .error e) :: log offer s ms := by
  rw [log, Machine.trace, Machine.answer, Machine.next, step_of_error h, log]
  rfl

lemma outcomes_cons_of_ok {s s' : σ} {m : μ} {ms : List μ} {b : β} (h : offer s m = .ok (s', b)) :
    outcomes offer s (m :: ms) = .ok b :: outcomes offer s' ms := by
  rw [outcomes, log_cons_of_ok h, List.map_cons, outcomes]

lemma outcomes_cons_of_error {s : σ} {m : μ} {ms : List μ} {e : ε} (h : offer s m = .error e) :
    outcomes offer s (m :: ms) = .error e :: outcomes offer s ms := by
  rw [outcomes, log_cons_of_error h, List.map_cons, outcomes]

/-- An offer with a result in `p` is the first that the run takes. -/
lemma taken_cons_of_ok {p : β → Bool} {s s' : σ} {m : μ} {ms : List μ} {b : β}
    (h : offer s m = .ok (s', b)) (hb : p b) : taken offer p s (m :: ms) = m :: taken offer p s' ms := by
  rw [taken, log_cons_of_ok h, List.filterMap_cons_some (b := m) (by rw [entry, if_pos hb]), taken]

/-- An offer with another result is passed over. -/
lemma taken_cons_of_not {p : β → Bool} {s s' : σ} {m : μ} {ms : List μ} {b : β}
    (h : offer s m = .ok (s', b)) (hb : ¬ p b) : taken offer p s (m :: ms) = taken offer p s' ms := by
  rw [taken, log_cons_of_ok h, List.filterMap_cons_none (by rw [entry, if_neg hb]), taken]

/-- A refused offer is passed over. -/
lemma taken_cons_of_error {p : β → Bool} {s : σ} {m : μ} {ms : List μ} {e : ε}
    (h : offer s m = .error e) : taken offer p s (m :: ms) = taken offer p s ms := by
  rw [taken, log_cons_of_error h, List.filterMap_cons_none (by rw [entry]), taken]

/-- What a run takes was offered. -/
lemma mem_of_mem_taken {p : β → Bool} {s : σ} {ms : List μ} {m : μ} (h : m ∈ taken offer p s ms) : m ∈ ms := by
  induction ms generalizing s with
  | nil => exact h
  | cons first ms ih =>
    cases hfirst : offer s first with
    | error e =>
      rw [taken_cons_of_error hfirst] at h
      exact List.mem_cons_of_mem _ (ih h)
    | ok result =>
      obtain ⟨s', b⟩ := result
      by_cases hb : p b
      · rw [taken_cons_of_ok hfirst hb, List.mem_cons] at h
        rcases h with rfl | h
        · exact List.mem_cons_self
        · exact List.mem_cons_of_mem _ (ih h)
      · rw [taken_cons_of_not hfirst hb] at h
        exact List.mem_cons_of_mem _ (ih h)

/-- **The invariant rule.** A property of the state and of what was taken so far, which every offer keeps, holds
after a run.

**Proof sketch.** Induction on the offers; a refused one changes neither the state nor what was taken. -/
lemma taken_induction {p : β → Bool} {J : σ → List μ → Prop}
    (htaken : ∀ s m s' b before, J s before → offer s m = .ok (s', b) → p b → J s' (before ++ [m]))
    (hpassed : ∀ s m s' b before, J s before → offer s m = .ok (s', b) → ¬ p b → J s' before)
    {s : σ} {before : List μ} (h : J s before) (ms : List μ) :
    J (run offer s ms) (before ++ taken offer p s ms) := by
  induction ms generalizing s before with
  | nil => simpa using h
  | cons m ms ih =>
    cases hoffer : offer s m with
    | error e =>
      rw [run_cons_of_error hoffer, taken_cons_of_error hoffer]
      exact ih h
    | ok result =>
      obtain ⟨s', b⟩ := result
      rw [run_cons_of_ok hoffer]
      by_cases hb : p b
      · rw [taken_cons_of_ok hoffer hb, List.append_cons]
        exact ih (htaken s m s' b before h hoffer hb)
      · rw [taken_cons_of_not hoffer hb]
        exact ih (hpassed s m s' b before h hoffer hb)

/-- Two outcomes of one offer that agree but for the states, which are related. -/
def Agrees (R : σ → τ → Prop) : Except ε (σ × β) → Except ε (τ × β) → Prop
  | .ok (s, b), .ok (t, b') => R s t ∧ b = b'
  | .error e, .error e' => e = e'
  | _, _ => False

/-- **The simulation rule.** Two parties whose answers to an offer agree, whenever their states are related, give
the same answers to all the offers of a run, and are related after it. -/
lemma simulation {offer' : τ → μ → Except ε (τ × β)} {R : σ → τ → Prop}
    (hstep : ∀ s t m, R s t → Agrees R (offer s m) (offer' t m)) {s : σ} {t : τ} (h : R s t) (ms : List μ) :
    outcomes offer s ms = outcomes offer' t ms ∧ R (run offer s ms) (run offer' t ms) := by
  induction ms generalizing s t with
  | nil => exact ⟨rfl, h⟩
  | cons m ms ih =>
    have hagrees := hstep s t m h
    cases hs : offer s m with
    | error e =>
      cases ht : offer' t m with
      | error e' =>
        rw [hs, ht] at hagrees
        obtain rfl : e = e' := hagrees
        rw [outcomes_cons_of_error hs, outcomes_cons_of_error ht, run_cons_of_error hs, run_cons_of_error ht]
        obtain ⟨houtcomes, hrun⟩ := ih h
        exact ⟨by rw [houtcomes], hrun⟩
      | ok result =>
        rw [hs, ht] at hagrees
        exact hagrees.elim
    | ok result =>
      obtain ⟨s', b⟩ := result
      cases ht : offer' t m with
      | error e =>
        rw [hs, ht] at hagrees
        exact hagrees.elim
      | ok result' =>
        obtain ⟨t', b'⟩ := result'
        rw [hs, ht] at hagrees
        obtain ⟨hnext, rfl⟩ : R s' t' ∧ b = b' := hagrees
        rw [outcomes_cons_of_ok hs, outcomes_cons_of_ok ht, run_cons_of_ok hs, run_cons_of_ok ht]
        obtain ⟨houtcomes, hrun⟩ := ih hnext
        exact ⟨by rw [houtcomes], hrun⟩

end Offer
