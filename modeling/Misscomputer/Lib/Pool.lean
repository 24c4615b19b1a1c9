import Misscomputer.Lib.Machine
import Mathlib.Data.List.Nodup
import Mathlib.Data.List.Perm.Basic

set_option relaxedAutoImplicit false
set_option autoImplicit false

/-!
# Pools of processes over a shared state

A program of processes that step one at a time over a shared state. An event lets a request arrive,
which becomes a process; lets one process take its next step, with whatever its surroundings choose
for it; or changes the shared state from outside. A step replaces the process by its successors, so a
process can end and can start others. An event that is not enabled changes nothing.

A proof outline gives every process an assertion about the shared state. Processes hold locks; two
processes never hold the same one, so the assertion of a process needs to survive only those steps of
others that are taken without its locks.

## Main definitions

* `Pool.Program`, `Pool.Config`, `Pool.Event`, `Pool.Program.serve` — programs and their steps.
* `Pool.Runs` — a run of given events, with its end and what it observes.
* `Pool.LockMove` — what a step does to the locks.
* `Pool.Outline` — a proof outline, relative to a condition on the steps.
* `Pool.History` — the same for programs without locks, over what was observed so far.

## Main results

* `Pool.Program.serve_cases` — what one event does.
* `Pool.Outline.run_holds` — the outline holds in every run whose steps all meet the condition.
* `Pool.Program.run_history` — what a run has observed, by arrivals, steps and moves of the
  surroundings.
* `Pool.History.run_holds` — the history outline holds in every such run.
-/

namespace Pool

universe u

variable {σ π χ ρ ε α κ : Type u}

/-- A program of processes. -/
structure Program (σ π χ ρ ε α : Type u) where
  /-- The process a request becomes when it arrives. -/
  spawn : σ → ρ → Option π
  /-- The next step of a process: the shared state, the successors, and what is observed. -/
  step : σ → π → χ → Option (σ × List π × List α)
  /-- What the surroundings do to the shared state. -/
  env : σ → ε → σ

/-- The shared state and the processes. -/
structure Config (σ π : Type u) where
  shared : σ
  procs : List π

/-- A request arrives, a process steps, or the surroundings move. -/
inductive Event (χ ρ ε : Type u)
  | arrive (r : ρ)
  | run (i : ℕ) (c : χ)
  | env (e : ε)

/-- Serve one event. -/
def Program.serve (P : Program σ π χ ρ ε α) (s : Config σ π) :
    Event χ ρ ε → Config σ π × List α
  | .arrive r =>
    match P.spawn s.shared r with
    | none => (s, [])
    | some p => (⟨s.shared, s.procs ++ [p]⟩, [])
  | .run i c =>
    match s.procs[i]? with
    | none => (s, [])
    | some p =>
      match P.step s.shared p c with
      | none => (s, [])
      | some (shared, qs, observed) =>
        (⟨shared, s.procs.take i ++ qs ++ s.procs.drop (i + 1)⟩, observed)
  | .env e => (⟨P.env s.shared e, s.procs⟩, [])

/-- A list around one of its members. -/
lemma eq_take_append_drop {l : List π} {i : ℕ} {p : π} (h : l[i]? = some p) :
    l = l.take i ++ p :: l.drop (i + 1) := by
  obtain ⟨hi, rfl⟩ := List.getElem?_eq_some_iff.mp h
  rw [← List.drop_eq_getElem_cons hi, List.take_append_drop]

/-- **What one event does**: nothing, or a request arrives, or a process is replaced by its
successors, or the surroundings move. -/
lemma Program.serve_cases (P : Program σ π χ ρ ε α) (s : Config σ π) (e : Event χ ρ ε) :
    P.serve s e = (s, []) ∨
      (∃ r p, e = .arrive r ∧ P.spawn s.shared r = some p ∧
        P.serve s e = (⟨s.shared, s.procs ++ [p]⟩, [])) ∨
      (∃ i c pre p post shared qs observed, e = .run i c ∧ s.procs = pre ++ p :: post ∧
        s.procs[i]? = some p ∧ P.step s.shared p c = some (shared, qs, observed) ∧
        P.serve s e = (⟨shared, pre ++ qs ++ post⟩, observed)) ∨
      ∃ x, e = .env x ∧ P.serve s e = (⟨P.env s.shared x, s.procs⟩, []) := by
  cases e with
  | arrive r =>
    cases h : P.spawn s.shared r with
    | none => exact .inl (by simp [serve, h])
    | some p => exact .inr (.inl ⟨r, p, rfl, h, by simp [serve, h]⟩)
  | run i c =>
    cases hp : s.procs[i]? with
    | none => exact .inl (by simp [serve, hp])
    | some p =>
      cases h : P.step s.shared p c with
      | none => exact .inl (by simp [serve, hp, h])
      | some a =>
        obtain ⟨shared, qs, observed⟩ := a
        exact .inr (.inr (.inl ⟨i, c, _, p, _, shared, qs, observed, rfl, eq_take_append_drop hp, hp,
          h, by simp [serve, hp, h]⟩))
  | env x => exact .inr (.inr (.inr ⟨x, rfl, rfl⟩))

/-- The state after a step of the process at an index. -/
lemma Program.next_run (P : Program σ π χ ρ ε α) {s : Config σ π} {i : ℕ} {c : χ} {p : π} {shared : σ}
    {qs : List π} {observed : List α} (hp : s.procs[i]? = some p)
    (h : P.step s.shared p c = some (shared, qs, observed)) :
    Machine.next P.serve s (.run i c) =
      ⟨shared, s.procs.take i ++ qs ++ s.procs.drop (i + 1)⟩ := by
  simp [Machine.next, serve, hp, h]

/-- What is observed of a step of the process at an index. -/
lemma Program.answer_run (P : Program σ π χ ρ ε α) {s : Config σ π} {i : ℕ} {c : χ} {p : π} {shared : σ}
    {qs : List π} {observed : List α} (hp : s.procs[i]? = some p)
    (h : P.step s.shared p c = some (shared, qs, observed)) :
    Machine.answer P.serve s (.run i c) = observed := by
  simp [Machine.answer, serve, hp, h]

/-- A run of given events leads from `s` to `t` and observes `observed`. -/
structure Runs (P : Program σ π χ ρ ε α) (s : Config σ π) (events : List (Event χ ρ ε)) (t : Config σ π)
    (observed : List α) : Prop where
  run : Machine.run P.serve s events = t
  trace : Machine.trace P.serve s events = observed

section Runs

variable {P : Program σ π χ ρ ε α} {s s' : σ} {t : Config σ π} {procs qs : List π} {p : π} {i : ℕ} {c : χ}
  {r : ρ} {x : ε} {observed rest all : List α} {events : List (Event χ ρ ε)}

lemma Runs.nil : Runs P t [] t [] := ⟨rfl, rfl⟩

/-- A run that starts with a step of the process at an index. -/
lemma Runs.step (h : P.step s p c = some (s', qs, observed)) (hp : procs[i]? = some p)
    (hall : all = observed ++ rest)
    (hrest : Runs P ⟨s', procs.take i ++ qs ++ procs.drop (i + 1)⟩ events t rest) :
    Runs P ⟨s, procs⟩ (.run i c :: events) t all := by
  constructor
  · rw [Machine.run_cons, P.next_run hp h, hrest.run]
  · rw [Machine.trace, P.answer_run hp h, P.next_run hp h, hrest.trace, hall]

/-- A run that starts with an arrival. -/
lemma Runs.arrive (h : P.spawn s r = some p) (hrest : Runs P ⟨s, procs ++ [p]⟩ events t all) :
    Runs P ⟨s, procs⟩ (.arrive r :: events) t all := by
  have hserve : P.serve ⟨s, procs⟩ (.arrive r) = (⟨s, procs ++ [p]⟩, []) := by
    simp [Program.serve, h]
  constructor
  · rw [Machine.run_cons, Machine.next, hserve, hrest.run]
  · rw [Machine.trace, Machine.answer, Machine.next, hserve, hrest.trace, List.nil_append]

/-- A run that starts with a move of the surroundings. -/
lemma Runs.env (h : P.env s x = s') (hrest : Runs P ⟨s', procs⟩ events t all) :
    Runs P ⟨s, procs⟩ (.env x :: events) t all := by
  subst h
  exact ⟨hrest.run, hrest.trace⟩

end Runs

/-! ## Locks -/

/-- What a step does to the locks: nothing, or it takes a free lock, or it gives up its only one. -/
inductive LockMove [DecidableEq κ] (own locked own' locked' : List κ) : Prop
  | keep (own_eq : own' = own) (locked_eq : locked' = locked)
  | acquire (k : κ) (free : k ∉ locked) (own_eq : own = []) (own_eq' : own' = [k])
      (locked_eq : locked' = k :: locked)
  | release (k : κ) (own_eq : own = [k]) (own_eq' : own' = []) (locked_eq : locked' = locked.erase k)

/-- The locks of the processes are the locks taken, each by one process. -/
lemma LockMove.owned [DecidableEq κ] {own locked own' locked' pre post : List κ}
    (h : LockMove own locked own' locked') (hperm : (pre ++ own ++ post).Perm locked)
    (hnodup : locked.Nodup) : (pre ++ own' ++ post).Perm locked' ∧ locked'.Nodup := by
  cases h with
  | keep own_eq locked_eq => exact own_eq ▸ locked_eq ▸ ⟨hperm, hnodup⟩
  | acquire k free own_eq own_eq' locked_eq =>
    subst own_eq own_eq' locked_eq
    rw [List.append_nil] at hperm
    refine ⟨?_, List.nodup_cons.mpr ⟨free, hnodup⟩⟩
    rw [List.append_assoc, List.singleton_append]
    exact List.perm_middle.trans (hperm.cons k)
  | release k own_eq own_eq' locked_eq =>
    subst own_eq own_eq' locked_eq
    rw [List.append_assoc, List.singleton_append] at hperm
    refine ⟨?_, hnodup.erase k⟩
    rw [List.append_nil]
    have h := (List.perm_middle.symm.trans hperm).erase k
    rwa [List.erase_cons_head] at h

/-! ## Proof outlines -/

section Outline

variable [DecidableEq κ] (P : Program σ π χ ρ ε α) (locked : σ → List κ) (owns : π → List κ)
  (G : σ → π → χ → σ → Prop) (I : σ → Prop) (A : σ → π → Prop)

/-- **A proof outline**: an invariant `I` of the shared state and an assertion `A` for every process,
kept by the steps that meet the condition `G`. -/
structure Outline : Prop where
  spawn : ∀ {s r p}, I s → P.spawn s r = some p → A s p ∧ owns p = []
  env : ∀ {s} e, I s → I (P.env s e) ∧ locked (P.env s e) = locked s ∧ ∀ p, A s p → A (P.env s e) p
  locks : ∀ {s p c s' qs observed}, P.step s p c = some (s', qs, observed) →
    LockMove (owns p) (locked s) (qs.flatMap owns) (locked s')
  step : ∀ {s p c s' qs observed}, I s → A s p → P.step s p c = some (s', qs, observed) →
    G s p c s' → I s' ∧ ∀ q ∈ qs, A s' q
  stable : ∀ {s p c s' qs observed q}, I s → A s p → P.step s p c = some (s', qs, observed) →
    G s p c s' → A s q → (∀ k ∈ owns p, k ∉ owns q) → A s' q

/-- The outline holds in a configuration. -/
structure Holds (s : Config σ π) : Prop where
  inv : I s.shared
  procs : ∀ p ∈ s.procs, A s.shared p
  owned : (s.procs.flatMap owns).Perm (locked s.shared)
  nodup : (locked s.shared).Nodup

/-- An event meets the condition. -/
def Meets (s : Config σ π) (e : Event χ ρ ε) : Prop :=
  ∀ i c p s' qs observed, e = .run i c → s.procs[i]? = some p →
    P.step s.shared p c = some (s', qs, observed) → G s.shared p c s'

variable {P locked owns G I A}

omit [DecidableEq κ] in
/-- No other process holds a lock of a process. -/
lemma Holds.disjoint {s : Config σ π} (h : Holds locked owns I A s) {pre post : List π} {p q : π}
    (hprocs : s.procs = pre ++ p :: post) (hq : q ∈ pre ++ post) : ∀ k ∈ owns p, k ∉ owns q := by
  intro k hp hqk
  have hnodup := h.owned.nodup_iff.mpr h.nodup
  rw [hprocs, List.flatMap_append, List.flatMap_cons] at hnodup
  have hperm : (pre.flatMap owns ++ (owns p ++ post.flatMap owns)).Perm
      (owns p ++ (pre ++ post).flatMap owns) := by
    rw [List.flatMap_append]
    exact (List.perm_append_comm_assoc _ _ _)
  have hdisj := (List.nodup_append.mp (hperm.nodup_iff.mp hnodup)).2.2
  exact hdisj k hp k (List.mem_flatMap.mpr ⟨q, hq, hqk⟩) rfl

/-- One event that meets the condition keeps the outline. -/
lemma Outline.holds_serve (O : Outline P locked owns G I A) {s : Config σ π}
    (h : Holds locked owns I A s) {e : Event χ ρ ε} (hmeets : Meets P G s e) :
    Holds locked owns I A (P.serve s e).1 := by
  obtain heq | ⟨r, p, -, hp, heq⟩ | ⟨i, c, pre, p, post, s', qs, observed, he, hprocs, hi, hstep, heq⟩ |
    ⟨x, -, heq⟩ := P.serve_cases s e
  · rw [heq]
    exact h
  · obtain ⟨hA, howns⟩ := O.spawn h.inv hp
    rw [heq]
    refine ⟨h.inv, fun q hq => ?_, ?_, h.nodup⟩
    · rcases List.mem_append.mp hq with hq | hq
      · exact h.procs q hq
      · rw [List.mem_singleton.mp hq]
        exact hA
    · simpa [howns] using h.owned
  · have hG := hmeets i c p s' qs observed he hi hstep
    have hA : A s.shared p := h.procs p (hprocs ▸ by simp)
    obtain ⟨hI, hqs⟩ := O.step h.inv hA hstep hG
    have howned := h.owned
    rw [hprocs, List.flatMap_append, List.flatMap_cons, ← List.append_assoc] at howned
    obtain ⟨hperm, hnodup⟩ := (O.locks hstep).owned howned h.nodup
    rw [heq]
    refine ⟨hI, fun q hq => ?_, ?_, hnodup⟩
    · rw [List.append_assoc, List.mem_append, List.mem_append] at hq
      have hother : q ∈ pre ++ post → A s' q := fun hmem =>
        O.stable h.inv hA hstep hG (h.procs q (by rw [hprocs]; simp at hmem ⊢; tauto))
          (h.disjoint hprocs hmem)
      rcases hq with hq | hq | hq
      · exact hother (List.mem_append_left _ hq)
      · exact hqs q hq
      · exact hother (List.mem_append_right _ hq)
    · simpa [List.flatMap_append, List.append_assoc] using hperm
  · obtain ⟨hI, hlocked, hA⟩ := O.env x h.inv
    rw [heq]
    exact ⟨hI, fun q hq => hA q (h.procs q hq), hlocked ▸ h.owned, hlocked ▸ h.nodup⟩

/-- **The outline holds in every run whose steps all meet the condition.** -/
lemma Outline.run_holds (O : Outline P locked owns G I A) {s : Config σ π}
    (h : Holds locked owns I A s) {events : List (Event χ ρ ε)}
    (hmeets : ∀ pre e post, events = pre ++ e :: post → Meets P G (Machine.run P.serve s pre) e) :
    Holds locked owns I A (Machine.run P.serve s events) := by
  induction events generalizing s with
  | nil => exact h
  | cons e events ih =>
    rw [Machine.run_cons]
    refine ih (O.holds_serve h (hmeets [] e events rfl)) fun pre e' post heq => ?_
    exact hmeets (e :: pre) e' post (by rw [heq, List.cons_append])

end Outline

/-! ## Histories -/

section History

/-- A condition that every step of a run meets, on the state before the step. -/
def MeetsAt (P : Program σ π χ ρ ε α) (G : σ → π → χ → Prop) (s : Config σ π)
    (events : List (Event χ ρ ε)) : Prop :=
  ∀ before i c after p, events = before ++ .run i c :: after →
    (Machine.run P.serve s before).procs[i]? = some p →
    G (Machine.run P.serve s before).shared p c

lemma MeetsAt.nil {P : Program σ π χ ρ ε α} {G : σ → π → χ → Prop} {s : Config σ π} :
    MeetsAt P G s [] := by
  intro before i c after p heq
  simp at heq

/-- The first event of a run meets the condition, and so do the others. -/
lemma MeetsAt.cons {P : Program σ π χ ρ ε α} {G : σ → π → χ → Prop} {s : Config σ π}
    {e : Event χ ρ ε} {events : List (Event χ ρ ε)}
    (h : ∀ i c p, e = .run i c → s.procs[i]? = some p → G s.shared p c)
    (hrest : MeetsAt P G (Machine.next P.serve s e) events) : MeetsAt P G s (e :: events) := by
  intro before i c after p heq hp
  cases before with
  | nil =>
    rw [List.nil_append, List.cons.injEq] at heq
    exact h i c p heq.1 hp
  | cons e' before =>
    rw [List.cons_append, List.cons.injEq] at heq
    obtain ⟨rfl, heq⟩ := heq
    exact hrest before i c after p heq hp

/-- A step of one process meets the condition, and so do those after it. -/
lemma MeetsAt.run {P : Program σ π χ ρ ε α} {G : σ → π → χ → Prop} {s s' : σ} {procs : List π} {i : ℕ}
    {c : χ} {p : π} {qs : List π} {observed : List α} {events : List (Event χ ρ ε)}
    (h : P.step s p c = some (s', qs, observed)) (hp : procs[i]? = some p) (hG : G s p c)
    (hrest : MeetsAt P G ⟨s', procs.take i ++ qs ++ procs.drop (i + 1)⟩ events) :
    MeetsAt P G ⟨s, procs⟩ (.run i c :: events) := by
  refine .cons (fun i' c' p' heq hp' => ?_) ?_
  · cases heq
    rw [hp, Option.some.injEq] at hp'
    exact hp' ▸ hG
  · rw [P.next_run hp h]
    exact hrest

lemma MeetsAt.arrive {P : Program σ π χ ρ ε α} {G : σ → π → χ → Prop} {s : σ} {procs : List π} {r : ρ}
    {p : π} {events : List (Event χ ρ ε)} (h : P.spawn s r = some p)
    (hrest : MeetsAt P G ⟨s, procs ++ [p]⟩ events) : MeetsAt P G ⟨s, procs⟩ (.arrive r :: events) := by
  refine .cons (fun i c p heq => by cases heq) ?_
  simpa [Machine.next, Program.serve, h] using hrest

lemma MeetsAt.env {P : Program σ π χ ρ ε α} {G : σ → π → χ → Prop} {s s' : σ} {procs : List π} {x : ε}
    {events : List (Event χ ρ ε)} (h : P.env s x = s') (hrest : MeetsAt P G ⟨s', procs⟩ events) :
    MeetsAt P G ⟨s, procs⟩ (.env x :: events) := by
  subst h
  exact .cons (fun i c p heq => by cases heq) hrest

/-- The condition, checked along a run. -/
def meets (P : Program σ π χ ρ ε α) (G : σ → π → χ → Prop) [∀ s p c, Decidable (G s p c)] :
    Config σ π → List (Event χ ρ ε) → Bool
  | _, [] => true
  | s, .run i c :: events =>
    (match s.procs[i]? with
      | none => true
      | some p => decide (G s.shared p c)) && meets P G (Machine.next P.serve s (.run i c)) events
  | s, .arrive r :: events => meets P G (Machine.next P.serve s (.arrive r)) events
  | s, .env x :: events => meets P G (Machine.next P.serve s (.env x)) events

/-- A run that passes the check meets the condition. -/
lemma meetsAt_of_meets {P : Program σ π χ ρ ε α} {G : σ → π → χ → Prop} [∀ s p c, Decidable (G s p c)]
    {s : Config σ π} {events : List (Event χ ρ ε)} (h : meets P G s events = true) : MeetsAt P G s events := by
  induction events generalizing s with
  | nil => exact .nil
  | cons e events ih =>
    cases e with
    | arrive r => exact .cons (fun i c p heq => by cases heq) (ih h)
    | env x => exact .cons (fun i c p heq => by cases heq) (ih h)
    | run i c =>
      rw [meets, Bool.and_eq_true] at h
      refine .cons (fun i' c' p heq hp => ?_) (ih h.2)
      cases heq
      rw [hp] at h
      exact of_decide_eq_true h.1

/-- **What a run has observed**: a property of the configuration and of the observations that holds at
first, and that arrivals of the run's requests, steps that meet the condition and moves of the
surroundings keep, holds after the run. -/
lemma Program.run_history (P : Program σ π χ ρ ε α) {G : σ → π → χ → Prop}
    {J : Config σ π → List α → Prop} {s : Config σ π} {events : List (Event χ ρ ε)}
    (harrive : ∀ t obs r p, .arrive r ∈ events → J t obs → P.spawn t.shared r = some p →
      J ⟨t.shared, t.procs ++ [p]⟩ obs)
    (hstep : ∀ t obs pre p post c shared qs observed, J ⟨t, pre ++ p :: post⟩ obs →
      P.step t p c = some (shared, qs, observed) → G t p c →
      J ⟨shared, pre ++ qs ++ post⟩ (obs ++ observed))
    (henv : ∀ t obs x, J t obs → J ⟨P.env t.shared x, t.procs⟩ obs)
    (hmeets : MeetsAt P G s events) (h : J s []) :
    J (Machine.run P.serve s events) (Machine.trace P.serve s events) := by
  refine Machine.run_history (fun before e after t obs heq ht hJ => ?_) h
  obtain hserve | ⟨r, p, rfl, hp, hserve⟩ | ⟨i, c, pre, p, post, shared, qs, observed, rfl, hprocs, hi,
    hrun, hserve⟩ | ⟨x, rfl, hserve⟩ := P.serve_cases t e
  · simp only [Machine.next, Machine.answer, hserve, List.append_nil]
    exact hJ
  · simp only [Machine.next, Machine.answer, hserve, List.append_nil]
    exact harrive t obs r p (by simp [heq]) hJ hp
  · simp only [Machine.next, Machine.answer, hserve]
    refine hstep t.shared obs pre p post c shared qs observed (hprocs ▸ hJ) hrun ?_
    subst ht
    exact hmeets before i c after p heq hi
  · simp only [Machine.next, Machine.answer, hserve, List.append_nil]
    exact henv t obs x hJ

variable (P : Program σ π χ ρ ε α) (G : σ → π → χ → Prop) (R : ρ → Prop) (I : σ → List α → Prop)
  (A : σ → π → Prop)

/-- **A history outline**: an invariant `I` of the shared state and of what was observed so far, and an
assertion `A` for every process, kept by the steps that meet the condition `G` in runs with requests
in `R`. -/
structure History : Prop where
  spawn : ∀ {s obs r p}, I s obs → R r → P.spawn s r = some p → A s p
  env : ∀ {s obs} e, I s obs → I (P.env s e) obs ∧ ∀ p, A s p → A (P.env s e) p
  step : ∀ {s obs p c s' qs observed}, I s obs → A s p → P.step s p c = some (s', qs, observed) →
    G s p c → I s' (obs ++ observed) ∧ ∀ q ∈ qs, A s' q
  stable : ∀ {s obs p c s' qs observed q}, I s obs → A s p →
    P.step s p c = some (s', qs, observed) → G s p c → A s q → A s' q

variable {P G R I A}

/-- **The history outline holds in every run whose steps meet the condition.** -/
lemma History.run_holds (H : History P G R I A) {s : Config σ π} {events : List (Event χ ρ ε)}
    (hinv : I s.shared []) (hprocs : ∀ p ∈ s.procs, A s.shared p)
    (hR : ∀ r, .arrive r ∈ events → R r) (hmeets : MeetsAt P G s events) :
    I (Machine.run P.serve s events).shared (Machine.trace P.serve s events) ∧
      ∀ p ∈ (Machine.run P.serve s events).procs, A (Machine.run P.serve s events).shared p := by
  refine P.run_history (J := fun t obs => I t.shared obs ∧ ∀ p ∈ t.procs, A t.shared p) ?_ ?_ ?_ hmeets
    ⟨hinv, hprocs⟩
  · rintro t obs r p hr ⟨hI, hA⟩ hp
    refine ⟨hI, fun q hq => ?_⟩
    rcases List.mem_append.mp hq with hq | hq
    · exact hA q hq
    · rw [List.mem_singleton.mp hq]
      exact H.spawn hI (hR r hr) hp
  · rintro t obs pre p post c shared qs observed ⟨hI, hA⟩ hstep hG
    have hp : A t p := hA p (by simp)
    obtain ⟨hI', hqs⟩ := H.step hI hp hstep hG
    refine ⟨hI', fun q hq => ?_⟩
    simp only [List.mem_append] at hq
    rcases hq with (hq | hq) | hq
    · exact H.stable hI hp hstep hG (hA q (by simp [hq]))
    · exact hqs q hq
    · exact H.stable hI hp hstep hG (hA q (by simp [hq]))
  · rintro t obs x ⟨hI, hA⟩
    obtain ⟨hI', hA'⟩ := H.env x hI
    exact ⟨hI', fun q hq => hA' q (hA q hq)⟩

end History

end Pool
