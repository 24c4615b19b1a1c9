import Misscomputer.Lib.Machine
import Mathlib.Data.List.Count
import Mathlib.Algebra.BigOperators.Group.List.Basic
import Mathlib.Algebra.GroupWithZero.Nat
import Mathlib.Tactic.Lemma

set_option relaxedAutoImplicit false
set_option autoImplicit false

/-!
# Permits for name resolution

A name is resolved on a thread of its own, since the lookup cannot be cancelled. The calls share a bounded semaphore:
a call takes a permit before it launches its worker, and the permit goes back when the lookup has ended, or at once
when the worker never got to it. The lease of a call says who has to give the permit back.

Every call is a creator and a worker, which step in any order, also between the steps of other calls. A method of the
lease holds the lease's lock and is one step.

## Main definitions

* `Probe.BoundedSemaphore` — the permits.
* `Probe.Lease` — the owner of a call's permit, with `claim`, `cancel` and `finish`.
* `Probe.stepCreator`, `Probe.stepWorker` — the two threads of a call.
* `Probe.System`, `Probe.System.serve` — all calls, and one step of one thread.
* `Probe.Call.Coherent` — the lease goes with where the two threads are.

## Main results

* `Probe.Call.Coherent.stepCreator`, `Probe.Call.Coherent.stepWorker` — what a step does to a permit.
* `Probe.permit_released_once` — every permit is given back once, after its lookup.

## Implementation notes

The signal mask of `_lease_transition` is left out: a step of a locked method is not interrupted. An exception that a
thread of the source is not written for, such as an interrupt between two statements, is no step here.

## References

* `src/misscomputer_subnet/probe_transport.py` (`_ResolutionLease`, `_resolve_within_budget`)
-/

namespace Misscomputer

namespace Probe

/-! ## The semaphore and the lease -/

/-- `threading.BoundedSemaphore`. -/
structure BoundedSemaphore where
  bound : ℕ
  value : ℕ
  value_le : value ≤ bound

namespace BoundedSemaphore

/-- `acquire(blocking=False)`. -/
def acquire (slots : BoundedSemaphore) : Option BoundedSemaphore :=
  if 0 < slots.value then
    some { slots with
      value := slots.value - 1
      value_le := Nat.le_trans (Nat.sub_le _ _) slots.value_le }
  else none

/-- `release`, which raises where all permits are free. -/
def release (slots : BoundedSemaphore) : Option BoundedSemaphore :=
  if h : slots.value < slots.bound then
    some { slots with
      value := slots.value + 1
      value_le := h }
  else none

lemma acquire_eq_some {slots slots' : BoundedSemaphore} (h : slots.acquire = some slots') :
    slots'.bound = slots.bound ∧ slots'.value + 1 = slots.value := by
  unfold acquire at h
  split at h
  · cases h
    exact ⟨rfl, Nat.succ_pred_eq_of_pos ‹_›⟩
  · cases h

lemma release_of_lt {slots : BoundedSemaphore} (h : slots.value < slots.bound) :
    ∃ slots', slots.release = some slots' ∧ slots'.bound = slots.bound ∧ slots'.value = slots.value + 1 := by
  unfold release
  rw [dif_pos h]
  exact ⟨_, rfl, rfl, rfl⟩

end BoundedSemaphore

/-- `_ResolutionLease._state`. -/
inductive Lease
  | new | creator | worker | released
deriving DecidableEq

/-- What is seen of a step: a permit taken or given back, or given back where all were free; the worker's claim; and
the beginning and the end of the lookup. -/
inductive Act
  | acquired | released | overrun
  | claimed | entered | left
deriving DecidableEq

namespace Lease

/-- `claim`. -/
def claim (lease : Lease) : Option Lease := if lease = creator then some worker else none

/-- The owner gives the permit back, and nobody else does. -/
def giveBack (owner lease : Lease) (slots : BoundedSemaphore) : BoundedSemaphore × Lease × List Act :=
  if lease = owner then
    match slots.release with
    | some slots' => (slots', released, [.released])
    | none => (slots, released, [.overrun])
  else (slots, lease, [])

/-- `cancel`. -/
def cancel (lease : Lease) (slots : BoundedSemaphore) : BoundedSemaphore × Lease × List Act :=
  giveBack creator lease slots

/-- `finish`. -/
def finish (lease : Lease) (slots : BoundedSemaphore) : BoundedSemaphore × Lease × List Act :=
  giveBack worker lease slots

/-- The permits a lease holds. -/
def held : Lease → ℕ
  | creator | worker => 1
  | new | released => 0

/-- The permits taken for a lease so far. -/
def taken : Lease → ℕ
  | new => 0
  | creator | worker | released => 1

/-- The permits given back for a lease so far. -/
def returned : Lease → ℕ
  | released => 1
  | new | creator | worker => 0

end Lease

/-! ## The two threads of a call -/

section Call

variable {A : Type}

/-- What the resolver ends with: the addresses, or an exception with its text. -/
inductive Outcome (A : Type)
  | addresses (found : List A)
  | raised (message : String)

/-- What a call returns or raises. -/
inductive Answer (A : Type)
  | resolved (found : List A)
  | connectTimeout (message : String)
  | connectError (message : String)
  | startError

/-- The next statement of `_resolve_within_budget`. In `leave` the answer is known and `finally` comes next. -/
inductive Creator (A : Type)
  | begin | acquire | check | start | budget | wait
  | late (first : Outcome A)
  | leave (answer : Answer A)
  | returned (answer : Answer A)

/-- The next statement of `resolve`. -/
inductive Worker (A : Type)
  | unstarted | claim | enter | resolving
  | append (outcome : Outcome A)
  | signal | finish | ended

/-- One call of `_resolve_within_budget`. -/
structure Call (A : Type) where
  lease : Lease
  outcome : List (Outcome A)
  done : Bool
  creator : Creator A
  worker : Worker A

/-- A call that begins. -/
def Call.fresh : Call A where
  lease := .new
  outcome := []
  done := false
  creator := .begin
  worker := .unstarted

/-- How `Thread.start` ends. It may raise after the thread has been launched. -/
inductive Launch
  | launched | failed | raisedAfterLaunch

/-- What its surroundings decide for a step. -/
structure Chance (A : Type) where
  /-- The budget has ended. -/
  expired : Bool
  launch : Launch
  outcome : Outcome A
  /-- `done.set()` succeeds. -/
  signals : Bool

/-- The answer to the first outcome. -/
def answerOf : Outcome A → Answer A
  | .raised message => .connectError message
  | .addresses [] => .connectError "name resolved to no addresses"
  | .addresses (a :: found) => .resolved (a :: found)

/-- The budget ended before the lookup. -/
def budgetExhausted : Answer A := .connectTimeout "whole-request budget exhausted"

/-- The budget ended during the lookup. -/
def resolutionExceeded : Answer A := .connectTimeout "name resolution exceeded the whole-request budget"

/-- One step of the creator. -/
def stepCreator (slots : BoundedSemaphore) (call : Call A) (chance : Chance A) :
    BoundedSemaphore × Call A × List Act :=
  match call.creator with
  | .begin =>
    if chance.expired then (slots, { call with creator := .returned budgetExhausted }, [])
    else (slots, { call with creator := .acquire }, [])
  | .acquire =>
    match slots.acquire with
    | none => (slots, { call with creator := .leave (.connectError "resolver capacity exhausted") }, [])
    | some slots' => (slots', { call with lease := .creator, creator := .check }, [.acquired])
  | .check =>
    if chance.expired then (slots, { call with creator := .leave budgetExhausted }, [])
    else (slots, { call with creator := .start }, [])
  | .start =>
    match chance.launch with
    | .launched => (slots, { call with worker := .claim, creator := .budget }, [])
    | .failed => (slots, { call with creator := .leave .startError }, [])
    | .raisedAfterLaunch => (slots, { call with worker := .claim, creator := .leave .startError }, [])
  | .budget =>
    if chance.expired then (slots, { call with creator := .leave resolutionExceeded }, [])
    else (slots, { call with creator := .wait }, [])
  | .wait =>
    if call.done then
      match call.outcome with
      | [] => (slots, { call with creator := .leave resolutionExceeded }, [])
      | first :: _ => (slots, { call with creator := .late first }, [])
    else if chance.expired then (slots, { call with creator := .leave resolutionExceeded }, [])
    else (slots, call, [])
  | .late first =>
    if chance.expired then (slots, { call with creator := .leave resolutionExceeded }, [])
    else (slots, { call with creator := .leave (answerOf first) }, [])
  | .leave answer =>
    let (slots', lease, acts) := call.lease.cancel slots
    (slots', { call with lease := lease, creator := .returned answer }, acts)
  | .returned _ => (slots, call, [])

/-- One step of the worker. A resolver that blocks takes no step. -/
def stepWorker (slots : BoundedSemaphore) (call : Call A) (chance : Chance A) :
    BoundedSemaphore × Call A × List Act :=
  match call.worker with
  | .unstarted => (slots, call, [])
  | .claim =>
    match call.lease.claim with
    | none => (slots, { call with worker := .signal }, [])
    | some lease => (slots, { call with lease := lease, worker := .enter }, [.claimed])
  | .enter => (slots, { call with worker := .resolving }, [.entered])
  | .resolving => (slots, { call with worker := .append chance.outcome }, [.left])
  | .append outcome => (slots, { call with outcome := call.outcome ++ [outcome], worker := .signal }, [])
  | .signal => (slots, { call with done := call.done || chance.signals, worker := .finish }, [])
  | .finish =>
    let (slots', lease, acts) := call.lease.finish slots
    (slots', { call with lease := lease, worker := .ended }, acts)
  | .ended => (slots, call, [])

/-- The creator has returned, after its `finally`. -/
def Call.Returned (call : Call A) : Prop := ∃ answer, call.creator = .returned answer

/-- The resolver of the call is running. -/
def Call.resolving (call : Call A) : Bool := match call.worker with
  | .resolving => true
  | _ => false

end Call

/-! ## All calls -/

/-- The permits and the calls, in the order in which they began. -/
structure System (A : Type) where
  slots : BoundedSemaphore
  calls : List (Call A)

/-- A call begins, or a thread of a call takes a step. -/
inductive Move (A : Type)
  | call
  | creator (i : ℕ) (chance : Chance A)
  | worker (i : ℕ) (chance : Chance A)

namespace System

variable {A : Type}

/-- No call, and all permits free. -/
def initial (A : Type) (bound : ℕ) : System A := ⟨⟨bound, bound, Nat.le_refl _⟩, []⟩

/-- A thread of one call takes a step. -/
def advance (s : System A) (i : ℕ)
    (step : BoundedSemaphore → Call A → BoundedSemaphore × Call A × List Act) : System A × List (ℕ × Act) :=
  match s.calls[i]? with
  | none => (s, [])
  | some call =>
    let (slots, call', acts) := step s.slots call
    (⟨slots, s.calls.set i call'⟩, acts.map fun act => (i, act))

/-- One move. What is seen of it is marked with the call. -/
def serve (s : System A) : Move A → System A × List (ℕ × Act)
  | .call => (⟨s.slots, s.calls ++ [.fresh]⟩, [])
  | .creator i chance => s.advance i fun slots call => stepCreator slots call chance
  | .worker i chance => s.advance i fun slots call => stepWorker slots call chance

end System

/-! ## What a step does to a permit -/

section Steps

variable {A : Type} {slots slots' : BoundedSemaphore} {call call' : Call A} {acts : List Act}

/-- The lease goes with where the two threads are. -/
structure Call.Coherent (call : Call A) : Prop where
  before : call.creator = .begin ∨ call.creator = .acquire → call.lease = .new
  admitted : call.creator = .check ∨ call.creator = .start → call.lease = .creator ∧ call.worker = .unstarted
  returned : call.Returned → call.lease ≠ .creator
  fresh : call.lease = .new → call.worker = .unstarted
  unclaimed : call.lease = .creator → call.worker = .unstarted ∨ call.worker = .claim
  inside : (call.worker = .enter ∨ call.worker = .resolving ∨ ∃ o, call.worker = .append o) →
    call.lease = .worker
  ended : call.worker = .ended → call.lease = .released

/-- A running resolver is the worker's. -/
lemma Call.Coherent.lease_of_resolving (h : call.Coherent) (hresolving : call.resolving = true) :
    call.lease = .worker := by
  apply h.inside
  unfold Call.resolving at hresolving
  split at hresolving
  · exact Or.inr (Or.inl ‹_›)
  · cases hresolving

/-- What a step does: the permits are free or held, and every change of the lease is seen. -/
structure Accounts (slots : BoundedSemaphore) (call : Call A)
    (after : BoundedSemaphore × Call A × List Act) : Prop where
  coherent : after.2.1.Coherent
  bound : after.1.bound = slots.bound
  permits : after.1.value + after.2.1.lease.held = slots.value + call.lease.held
  taken : call.lease.taken + after.2.2.count .acquired = after.2.1.lease.taken
  givenBack : call.lease.returned + after.2.2.count .released = after.2.1.lease.returned
  noOverrun : .overrun ∉ after.2.2
  claims : after.2.1.lease = .worker → call.lease = .worker ∨ .claimed ∈ after.2.2
  enters : .entered ∈ after.2.2 → call.worker = .enter
  claimsOwn : .claimed ∈ after.2.2 → call.lease = .creator

/-- A step that leaves the permit and the lease alone. -/
lemma Accounts.keep (h : call'.Coherent) (hlease : call'.lease = call.lease)
    (hacts : ∀ act ∈ acts, act = .left ∨ act = .entered ∧ call.worker = .enter) :
    Accounts slots call (slots, call', acts) := by
  have hnone : ∀ act, act ≠ .left → act ≠ .entered → act ∉ acts := by
    intro act hleft hentered hmem
    rcases hacts act hmem with h | ⟨h, -⟩
    · exact hleft h
    · exact hentered h
  refine ⟨h, rfl, by rw [hlease], ?_, ?_, hnone _ (by decide) (by decide), ?_, ?_,
    fun hmem => absurd hmem (hnone _ (by decide) (by decide))⟩
  · rw [List.count_eq_zero.mpr (hnone .acquired (by decide) (by decide)), hlease]
    rfl
  · rw [List.count_eq_zero.mpr (hnone .released (by decide) (by decide)), hlease]
    rfl
  · intro hworker
    exact Or.inl (hlease ▸ hworker)
  · intro hmem
    rcases hacts _ hmem with h | ⟨-, h⟩
    · cases h
    · exact h

/-- The owner gives the permit back. -/
lemma Accounts.giveBack (owner : Lease) (call' : Call A) (howner : owner.held = 1) (hlt : slots.value + call.lease.held ≤ slots.bound)
    (h : ∀ lease, lease ≠ owner → (lease = .released ∧ call.lease = owner ∨ lease = call.lease) →
      Call.Coherent { call' with lease := lease }) :
    let result := Lease.giveBack owner call.lease slots
    Accounts slots call (result.1, { call' with lease := result.2.1 }, result.2.2) := by
  intro result
  have hreleased : Lease.released ≠ owner := by
    rintro rfl
    cases howner
  by_cases hmine : call.lease = owner
  · have hheld : call.lease.held = 1 := hmine ▸ howner
    have hfree : slots.value < slots.bound := by omega
    obtain ⟨slots', hrelease, hbound, hvalue⟩ := BoundedSemaphore.release_of_lt hfree
    have hresult : result = (slots', .released, [.released]) := by
      simp only [result, Lease.giveBack, if_pos hmine, hrelease]
    rw [hresult]
    have hcase : call.lease = .creator ∨ call.lease = .worker := by
      cases hl : call.lease <;> rw [hl] at hheld <;> simp_all [Lease.held]
    refine ⟨h _ hreleased (Or.inl ⟨rfl, hmine⟩), hbound, ?_, ?_, ?_, by simp, by simp, by simp, by simp⟩
    · change slots'.value + 0 = _
      omega
    · rcases hcase with hl | hl <;> rw [hl] <;> rfl
    · rcases hcase with hl | hl <;> rw [hl] <;> rfl
  · have hresult : result = (slots, call.lease, []) := by
      simp only [result, Lease.giveBack, if_neg hmine]
    rw [hresult]
    exact .keep (h _ hmine (Or.inr rfl)) rfl (by simp)

/-- The creator moves on, and the lease stays. -/
lemma Call.Coherent.withCreator (h : call.Coherent) {creator : Creator A}
    (hbefore : creator = .begin ∨ creator = .acquire → call.lease = .new)
    (hadmitted : creator = .check ∨ creator = .start → call.lease = .creator ∧ call.worker = .unstarted)
    (hreturned : ∀ answer, creator = .returned answer → call.lease ≠ .creator) :
    Call.Coherent { call with creator := creator } where
  before := hbefore
  admitted := hadmitted
  returned := fun ⟨answer, hanswer⟩ => hreturned answer hanswer
  fresh := h.fresh
  unclaimed := h.unclaimed
  inside := h.inside
  ended := h.ended

/-- The worker moves on after its claim or past the lookup, and the lease stays. -/
lemma Call.Coherent.withWorker (h : call.Coherent) (hstarted : call.worker ≠ .unstarted) {worker : Worker A}
    (hclaim : worker ≠ .unstarted ∧ worker ≠ .claim ∧ worker ≠ .ended) (hlease : call.lease ≠ .creator)
    (hinside : (worker = .enter ∨ worker = .resolving ∨ ∃ o, worker = .append o) → call.lease = .worker)
    {outcome : List (Outcome A)} {done : Bool} :
    Call.Coherent { call with outcome := outcome, done := done, worker := worker } where
  before := h.before
  admitted := fun hcreator => absurd (h.admitted hcreator).1 hlease
  returned := h.returned
  fresh := fun hnew => absurd (h.fresh hnew) hstarted
  unclaimed := fun hcreator => absurd hcreator hlease
  inside := hinside
  ended := fun hended => absurd hended hclaim.2.2

/-- **What a step of the creator does.** -/
lemma Call.Coherent.stepCreator (h : call.Coherent) (hlt : slots.value + call.lease.held ≤ slots.bound)
    (chance : Chance A) : Accounts slots call (Probe.stepCreator slots call chance) := by
  have hleave : ∀ answer, Accounts slots call (slots, { call with creator := .leave answer }, []) :=
    fun answer => .keep (h.withCreator (by simp) (by simp) (by simp)) rfl (by simp)
  have hstay : Accounts slots call (slots, call, []) := .keep h rfl (by simp)
  unfold Probe.stepCreator
  cases hcreator : call.creator with
  | begin =>
    have hnew : call.lease = .new := h.before (Or.inl hcreator)
    by_cases hexpired : chance.expired = true
    · rw [if_pos hexpired]
      exact .keep (h.withCreator (by simp) (by simp) (by simp [hnew])) rfl (by simp)
    · rw [if_neg hexpired]
      exact .keep (h.withCreator (fun _ => hnew) (by simp) (by simp)) rfl (by simp)
  | acquire =>
    have hnew : call.lease = .new := h.before (Or.inr hcreator)
    cases hacquire : slots.acquire with
    | none => exact hleave _
    | some slots' =>
      obtain ⟨hbound, hvalue⟩ := BoundedSemaphore.acquire_eq_some hacquire
      have hworker := h.fresh hnew
      refine ⟨⟨by simp, fun _ => ⟨rfl, hworker⟩, ?_, by simp, fun _ => Or.inl hworker, ?_, ?_⟩, hbound, ?_, ?_,
        ?_, by simp, by simp, by simp, by simp⟩
      · rintro ⟨answer, hanswer⟩
        cases hanswer
      · simp [hworker]
      · simp [hworker]
      · simp only [hnew, Lease.held]
        omega
      · rw [hnew]
        rfl
      · rw [hnew]
        rfl
  | check =>
    dsimp only
    by_cases hexpired : chance.expired = true
    · rw [if_pos hexpired]
      exact hleave _
    · rw [if_neg hexpired]
      exact .keep (h.withCreator (by simp) (fun _ => h.admitted (Or.inl hcreator)) (by simp)) rfl (by simp)
  | start =>
    obtain ⟨hlease, -⟩ := h.admitted (Or.inr hcreator)
    -- The thread that was launched has not claimed the lease yet.
    have hlaunch : ∀ creator, (∀ answer, creator ≠ .returned answer) →
        creator ≠ .begin ∧ creator ≠ .acquire ∧ creator ≠ .check ∧ creator ≠ .start →
        Accounts slots call (slots, { call with worker := .claim, creator := creator }, []) := by
      rintro creator hreturned ⟨hbegin, hacquire, hcheck, hstart⟩
      refine .keep ⟨?_, ?_, ?_, by simp [hlease], fun _ => Or.inr rfl, by simp, by simp⟩ rfl (by simp)
      · rintro (hc | hc)
        · exact absurd hc hbegin
        · exact absurd hc hacquire
      · rintro (hc | hc)
        · exact absurd hc hcheck
        · exact absurd hc hstart
      · rintro ⟨answer, hanswer⟩
        exact absurd hanswer (hreturned answer)
    cases chance.launch with
    | launched => exact hlaunch _ (by simp) (by simp)
    | failed => exact hleave _
    | raisedAfterLaunch => exact hlaunch _ (by simp) (by simp)
  | budget =>
    dsimp only
    by_cases hexpired : chance.expired = true
    · rw [if_pos hexpired]
      exact hleave _
    · rw [if_neg hexpired]
      exact .keep (h.withCreator (by simp) (by simp) (by simp)) rfl (by simp)
  | wait =>
    dsimp only
    by_cases hdone : call.done = true
    · rw [if_pos hdone]
      split
      · exact hleave _
      · exact .keep (h.withCreator (by simp) (by simp) (by simp)) rfl (by simp)
    · rw [if_neg hdone]
      by_cases hexpired : chance.expired = true
      · rw [if_pos hexpired]
        exact hleave _
      · rw [if_neg hexpired]
        exact hstay
  | late first =>
    dsimp only
    by_cases hexpired : chance.expired = true
    · rw [if_pos hexpired]
      exact hleave _
    · rw [if_neg hexpired]
      exact hleave _
  | leave answer =>
    refine Accounts.giveBack .creator { call with creator := .returned answer } rfl hlt ?_
    intro lease hne hlease
    refine ⟨by simp, by simp, fun _ => hne, fun hnew => ?_, fun hc => absurd hc hne, fun hinside => ?_,
      fun hended => ?_⟩
    · rcases hlease with ⟨rfl, -⟩ | rfl
      · cases hnew
      · exact h.fresh hnew
    · have hworker := h.inside hinside
      rcases hlease with ⟨-, hmine⟩ | rfl
      · rw [hworker] at hmine
        cases hmine
      · exact hworker
    · have hreleased := h.ended hended
      rcases hlease with ⟨rfl, -⟩ | rfl
      · rfl
      · exact hreleased
  | returned answer => exact hstay

/-- **What a step of the worker does.** -/
lemma Call.Coherent.stepWorker (h : call.Coherent) (hlt : slots.value + call.lease.held ≤ slots.bound)
    (chance : Chance A) : Accounts slots call (Probe.stepWorker slots call chance) := by
  have hstay : Accounts slots call (slots, call, []) := .keep h rfl (by simp)
  unfold Probe.stepWorker
  cases hworker : call.worker with
  | unstarted => exact hstay
  | claim =>
    have hstarted : call.worker ≠ .unstarted := by simp [hworker]
    by_cases hcreator : call.lease = .creator
    · have hclaim : call.lease.claim = some .worker := by simp [Lease.claim, hcreator]
      rw [hclaim]
      refine ⟨⟨?_, ?_, by simp, by simp, by simp, by simp, by simp⟩, rfl, ?_, ?_, ?_, by simp, by simp, by simp,
        fun _ => hcreator⟩
      · intro hbefore
        have hnew := h.before hbefore
        rw [hcreator] at hnew
        cases hnew
      · intro hadmitted
        exact absurd (h.admitted hadmitted).2 hstarted
      · rw [hcreator]
        rfl
      · rw [hcreator]
        rfl
      · rw [hcreator]
        rfl
    · have hclaim : call.lease.claim = none := by simp [Lease.claim, hcreator]
      rw [hclaim]
      exact .keep (h.withWorker hstarted (by simp) hcreator (by simp)) rfl (by simp)
  | enter =>
    have hlease : call.lease = .worker := h.inside (Or.inl hworker)
    exact .keep (h.withWorker (by simp [hworker]) (by simp) (by simp [hlease]) (fun _ => hlease)) rfl
      (by simp [hworker])
  | resolving =>
    have hlease : call.lease = .worker := h.inside (Or.inr (Or.inl hworker))
    exact .keep (h.withWorker (by simp [hworker]) (by simp) (by simp [hlease]) (fun _ => hlease)) rfl (by simp)
  | append outcome =>
    have hlease : call.lease = .worker := h.inside (Or.inr (Or.inr ⟨outcome, hworker⟩))
    exact .keep (h.withWorker (by simp [hworker]) (by simp) (by simp [hlease]) (by simp)) rfl (by simp)
  | signal =>
    have hlease : call.lease ≠ .creator := by
      intro hcreator
      rcases h.unclaimed hcreator with hw | hw <;> rw [hworker] at hw <;> cases hw
    exact .keep (h.withWorker (by simp [hworker]) (by simp) hlease (by simp)) rfl (by simp)
  | finish =>
    have hstarted : call.worker ≠ .unstarted := by simp [hworker]
    have hcreator : call.lease ≠ .creator := by
      intro hcreator
      rcases h.unclaimed hcreator with hw | hw <;> rw [hworker] at hw <;> cases hw
    refine Accounts.giveBack .worker { call with worker := .ended } rfl hlt ?_
    intro lease hne hlease
    have hother : lease ≠ .creator := by
      rcases hlease with ⟨rfl, -⟩ | rfl
      · simp
      · exact hcreator
    have hnotNew : lease ≠ .new := by
      rcases hlease with ⟨rfl, -⟩ | rfl
      · simp
      · exact fun hnew => hstarted (h.fresh hnew)
    have hreleased : lease = .released := by
      cases lease with
      | new => exact absurd rfl hnotNew
      | creator => exact absurd rfl hother
      | worker => exact absurd rfl hne
      | released => rfl
    subst hreleased
    refine ⟨?_, ?_, by simp, by simp, by simp, by simp, by simp⟩
    · intro hbefore
      exact absurd (h.fresh (h.before hbefore)) hstarted
    · intro hadmitted
      exact absurd (h.admitted hadmitted).2 hstarted
  | ended => exact hstay

/-- A creator that has returned takes no further step. -/
lemma Call.Returned.stepCreator (h : call.Returned) (slots : BoundedSemaphore) (chance : Chance A) :
    (Probe.stepCreator slots call chance).2.1.Returned := by
  obtain ⟨answer, hanswer⟩ := h
  unfold Probe.stepCreator
  rw [hanswer]
  exact ⟨answer, hanswer⟩

/-- The worker leaves the creator alone. -/
lemma creator_stepWorker (slots : BoundedSemaphore) (call : Call A) (chance : Chance A) :
    (stepWorker slots call chance).2.1.creator = call.creator := by
  unfold stepWorker
  cases call.worker with
  | claim => cases call.lease.claim <;> rfl
  | _ => rfl

/-- A step of a thread, as the system takes it. -/
structure Sound (step : BoundedSemaphore → Call A → BoundedSemaphore × Call A × List Act) : Prop where
  accounts : ∀ slots call, call.Coherent → slots.value + call.lease.held ≤ slots.bound →
    Accounts slots call (step slots call)
  returned : ∀ slots call, call.Returned → (step slots call).2.1.Returned

lemma sound_stepCreator (chance : Chance A) : Sound fun slots call => stepCreator slots call chance where
  accounts := fun _ _ h hlt => h.stepCreator hlt chance
  returned := fun slots _ h => h.stepCreator slots chance

lemma sound_stepWorker (chance : Chance A) : Sound fun slots call => stepWorker slots call chance where
  accounts := fun _ _ h hlt => h.stepWorker hlt chance
  returned := fun slots call ⟨answer, hanswer⟩ => ⟨answer, (creator_stepWorker slots call chance).trans hanswer⟩

end Steps

/-! ## Whole runs -/

section Runs

variable {A : Type} {bound : ℕ} {s : System A} {obs : List (ℕ × Act)}

/-- What a run has seen of one call. -/
structure Seen (call : Call A) (i : ℕ) (obs : List (ℕ × Act)) : Prop where
  coherent : call.Coherent
  taken : obs.count (i, .acquired) = call.lease.taken
  givenBack : obs.count (i, .released) = call.lease.returned
  claims : call.lease = .worker → (i, .claimed) ∈ obs
  enters : (i, .entered) ∈ obs → (i, .claimed) ∈ obs

/-- The permits that are held. -/
def System.held (s : System A) : ℕ := (s.calls.map fun call => call.lease.held).sum

/-- The invariant of a run: the permits are free or held, and what was seen of every call goes with its lease. -/
structure Balanced (bound : ℕ) (s : System A) (obs : List (ℕ × Act)) : Prop where
  bounded : s.slots.bound = bound
  permits : s.slots.value + s.held = bound
  seen : ∀ i call, s.calls[i]? = some call → Seen call i obs
  unseen : ∀ i, s.calls[i]? = none → ∀ act, (i, act) ∉ obs
  noOverrun : ∀ i, (i, .overrun) ∉ obs

/-- What is seen of a step is seen of its call. -/
lemma count_mark (i j : ℕ) (act : Act) (acts : List Act) :
    (acts.map fun a => (i, a)).count (j, act) = if j = i then acts.count act else 0 := by
  by_cases h : j = i
  · subst h
    rw [if_pos rfl]
    exact List.count_map_of_injective _ _ (fun a b hab => (Prod.mk.inj hab).2) _
  · rw [if_neg h, List.count_eq_zero]
    intro hmem
    obtain ⟨a, -, ha⟩ := List.mem_map.mp hmem
    exact h (Prod.mk.inj ha).1.symm

lemma mem_mark {i j : ℕ} {act : Act} {acts : List Act} :
    (j, act) ∈ acts.map (fun a => (i, a)) ↔ j = i ∧ act ∈ acts := by
  simp only [List.mem_map, Prod.mk.injEq]
  constructor
  · rintro ⟨a, ha, rfl, rfl⟩
    exact ⟨rfl, ha⟩
  · rintro ⟨rfl, hact⟩
    exact ⟨act, hact, rfl, rfl⟩

/-- The permits held, by one call and by the others. -/
lemma held_split {calls : List (Call A)} {i : ℕ} {call : Call A} (h : calls[i]? = some call) (call' : Call A) :
    ∃ others, (calls.map fun c => c.lease.held).sum = call.lease.held + others ∧
      ((calls.set i call').map fun c => c.lease.held).sum = call'.lease.held + others := by
  induction calls generalizing i with
  | nil => simp at h
  | cons c calls ih =>
    cases i with
    | zero =>
      obtain rfl : c = call := by simpa using h
      exact ⟨(calls.map fun c => c.lease.held).sum, by simp, by simp⟩
    | succ i =>
      obtain ⟨others, hbefore, hafter⟩ := ih (by simpa using h)
      refine ⟨c.lease.held + others, ?_, ?_⟩
      · rw [List.map_cons, List.sum_cons, hbefore]
        omega
      · rw [List.set_cons_succ, List.map_cons, List.sum_cons, hafter]
        omega

/-- One step of one call keeps the invariant. -/
lemma Balanced.advance (h : Balanced bound s obs)
    {step : BoundedSemaphore → Call A → BoundedSemaphore × Call A × List Act} (hstep : Sound step) (i : ℕ) :
    Balanced bound (s.advance i step).1 (obs ++ (s.advance i step).2) := by
  unfold System.advance
  cases hcall : s.calls[i]? with
  | none => simpa using h
  | some call =>
    have hi : i < s.calls.length := (List.getElem?_eq_some_iff.mp hcall).1
    have hseen := h.seen i call hcall
    obtain ⟨others, hbefore, hafter⟩ := held_split hcall (step s.slots call).2.1
    have hpermits := h.permits
    have hbounded := h.bounded
    unfold System.held at hpermits
    have hstep := hstep.accounts s.slots call hseen.coherent (by omega)
    have hsum := hstep.permits
    refine ⟨hstep.bound.trans hbounded, ?_, fun j c hj => ?_, fun j hj act hmem => ?_, fun j hmem => ?_⟩
    · refine (congrArg ((step s.slots call).1.value + ·) hafter).trans ?_
      omega
    · change (s.calls.set i _)[j]? = some c at hj
      by_cases hij : i = j
      · -- The call that took the step.
        subst hij
        rw [List.getElem?_set_self hi, Option.some.injEq] at hj
        subst hj
        refine ⟨hstep.coherent, ?_, ?_, ?_, ?_⟩
        · rw [List.count_append, count_mark, if_pos rfl, hseen.taken]
          exact hstep.taken
        · rw [List.count_append, count_mark, if_pos rfl, hseen.givenBack]
          exact hstep.givenBack
        · intro hworker
          rw [List.mem_append, mem_mark]
          rcases hstep.claims hworker with hbefore | hnow
          · exact Or.inl (hseen.claims hbefore)
          · exact Or.inr ⟨rfl, hnow⟩
        · intro hentered
          rw [List.mem_append, mem_mark] at hentered ⊢
          rcases hentered with hbefore | ⟨-, hnow⟩
          · exact Or.inl (hseen.enters hbefore)
          · exact Or.inl (hseen.claims (hseen.coherent.inside (Or.inl (hstep.enters hnow))))
      · rw [List.getElem?_set_ne hij] at hj
        have hother := h.seen j c hj
        have hmark : ∀ act, (j, act) ∈ obs ++ (step s.slots call).2.2.map (fun a => (i, a)) ↔
            (j, act) ∈ obs := by
          intro act
          rw [List.mem_append, mem_mark]
          exact or_iff_left fun hmem => hij hmem.1.symm
        refine ⟨hother.coherent, ?_, ?_, fun hworker => ?_, fun hentered => ?_⟩
        · rw [List.count_append, count_mark, if_neg (Ne.symm hij)]
          exact hother.taken
        · rw [List.count_append, count_mark, if_neg (Ne.symm hij)]
          exact hother.givenBack
        · exact (hmark _).mpr (hother.claims hworker)
        · exact (hmark _).mpr (hother.enters ((hmark _).mp hentered))
    · change (s.calls.set i _)[j]? = none at hj
      have hlength : s.calls.length ≤ j := by simpa using hj
      rcases List.mem_append.mp hmem with hmem | hmem
      · exact h.unseen j (List.getElem?_eq_none hlength) act hmem
      · exact absurd ((mem_mark.mp hmem).1 ▸ hlength) (Nat.not_le.mpr hi)
    · rcases List.mem_append.mp hmem with hmem | hmem
      · exact h.noOverrun j hmem
      · exact hstep.noOverrun (mem_mark.mp hmem).2

/-- A call that begins has no permit. -/
lemma Balanced.begin (h : Balanced bound s obs) : Balanced bound ⟨s.slots, s.calls ++ [.fresh]⟩ obs := by
  have hpermits := h.permits
  refine ⟨h.bounded, ?_, fun i call hi => ?_, fun i hi => ?_, h.noOverrun⟩
  · simpa [System.held, Call.fresh, Lease.held] using hpermits
  · rw [List.getElem?_append] at hi
    split at hi
    · exact h.seen i call hi
    · rename_i hlen
      have hunseen := h.unseen i (List.getElem?_eq_none (Nat.not_lt.mp hlen))
      obtain rfl : call = .fresh := by
        have hmem := List.mem_of_getElem? hi
        exact List.mem_singleton.mp hmem
      refine ⟨⟨by simp [Call.fresh], by simp [Call.fresh], by simp [Call.fresh], by simp [Call.fresh],
        by simp [Call.fresh], by simp [Call.fresh], by simp [Call.fresh]⟩, ?_, ?_, by simp [Call.fresh], ?_⟩
      · rw [List.count_eq_zero.mpr (hunseen _)]
        rfl
      · rw [List.count_eq_zero.mpr (hunseen _)]
        rfl
      · intro hmem
        exact absurd hmem (hunseen _)
  · rw [List.getElem?_eq_none_iff, List.length_append] at hi
    exact h.unseen i (List.getElem?_eq_none (by omega))

/-- Every move keeps the invariant. -/
lemma Balanced.serve (h : Balanced bound s obs) (move : Move A) :
    Balanced bound (s.serve move).1 (obs ++ (s.serve move).2) := by
  cases move with
  | call =>
    rw [System.serve, List.append_nil]
    exact h.begin
  | creator i chance => exact h.advance (sound_stepCreator chance) i
  | worker i chance => exact h.advance (sound_stepWorker chance) i

/-- **The invariant holds in every run.** -/
lemma balanced_run (bound : ℕ) (moves : List (Move A)) :
    Balanced bound (Machine.run System.serve (System.initial A bound) moves)
      (Machine.trace System.serve (System.initial A bound) moves) := by
  rw [← List.nil_append (Machine.trace _ _ _)]
  refine Machine.run_history (J := Balanced bound) (fun before move after t obs heq ht h => h.serve move) ?_
  exact ⟨rfl, rfl, by simp [System.initial], by simp, by simp⟩

/-- A call whose creator has returned before the worker claimed the lease. -/
def Abandoned (i : ℕ) (s : System A) (obs : List (ℕ × Act)) : Prop :=
  (∃ call, s.calls[i]? = some call ∧ call.Returned) ∧ (i, .claimed) ∉ obs

/-- Neither side owns the permit of an abandoned call. -/
lemma Balanced.lease_of_abandoned (h : Balanced bound s obs) {i : ℕ} {call : Call A}
    (hcall : s.calls[i]? = some call) (hreturned : call.Returned) (hclaimed : (i, .claimed) ∉ obs) :
    call.lease ≠ .creator ∧ call.lease ≠ .worker :=
  ⟨(h.seen i call hcall).coherent.returned hreturned, mt (h.seen i call hcall).claims hclaimed⟩

/-- An abandoned call stays so, whichever thread takes a step. -/
lemma Abandoned.advance {i : ℕ} (ha : Abandoned i s obs) (h : Balanced bound s obs)
    {step : BoundedSemaphore → Call A → BoundedSemaphore × Call A × List Act} (hstep : Sound step) (j : ℕ) :
    Abandoned i (s.advance j step).1 (obs ++ (s.advance j step).2) := by
  obtain ⟨⟨call, hcall, hreturned⟩, hclaimed⟩ := ha
  unfold System.advance
  cases hj : s.calls[j]? with
  | none =>
    rw [List.append_nil]
    exact ⟨⟨call, hcall, hreturned⟩, hclaimed⟩
  | some other =>
    by_cases hij : i = j
    · subst hij
      obtain rfl : call = other := Option.some.inj (hcall.symm.trans hj)
      have hi : i < s.calls.length := (List.getElem?_eq_some_iff.mp hcall).1
      obtain ⟨hcreator, -⟩ := h.lease_of_abandoned hcall hreturned hclaimed
      have hpermits := h.permits
      have hbounded := h.bounded
      obtain ⟨others, hbefore, -⟩ := held_split hcall call
      unfold System.held at hpermits
      have haccounts := hstep.accounts s.slots call (h.seen i call hcall).coherent (by omega)
      refine ⟨⟨_, List.getElem?_set_self hi, hstep.returned s.slots call hreturned⟩, fun hmem => ?_⟩
      rcases List.mem_append.mp hmem with hmem | hmem
      · exact hclaimed hmem
      · exact hcreator (haccounts.claimsOwn (mem_mark.mp hmem).2)
    · refine ⟨⟨call, (List.getElem?_set_ne (Ne.symm hij)).trans hcall, hreturned⟩, fun hmem => ?_⟩
      rcases List.mem_append.mp hmem with hmem | hmem
      · exact hclaimed hmem
      · exact hij (mem_mark.mp hmem).1

/-- The worker of an abandoned call never claims the lease. -/
lemma Abandoned.run {i : ℕ} (ha : Abandoned i s obs) (h : Balanced bound s obs) (later : List (Move A)) :
    Balanced bound (Machine.run System.serve s later) (obs ++ Machine.trace System.serve s later) ∧
      Abandoned i (Machine.run System.serve s later) (obs ++ Machine.trace System.serve s later) := by
  refine Machine.run_history (J := fun t seen => Balanced bound t seen ∧ Abandoned i t seen) ?_ ⟨h, ha⟩
  rintro before move after t seen - - ⟨h, ha⟩
  refine ⟨h.serve move, ?_⟩
  cases move with
  | call =>
    obtain ⟨⟨call, hcall, hreturned⟩, hclaimed⟩ := ha
    have hi : i < t.calls.length := (List.getElem?_eq_some_iff.mp hcall).1
    change Abandoned i ⟨t.slots, t.calls ++ [.fresh]⟩ (seen ++ [])
    rw [List.append_nil]
    exact ⟨⟨call, (List.getElem?_append_left hi).trans hcall, hreturned⟩, hclaimed⟩
  | creator j chance => exact ha.advance h (sound_stepCreator chance) j
  | worker j chance => exact ha.advance h (sound_stepWorker chance) j

/-- A call with a running resolver holds its permit. -/
lemma countP_resolving_le {calls : List (Call A)} (h : ∀ call ∈ calls, call.Coherent) :
    calls.countP Call.resolving ≤ (calls.map fun call => call.lease.held).sum := by
  induction calls with
  | nil => simp
  | cons call calls ih =>
    have ih := ih fun c hc => h c (List.mem_cons_of_mem _ hc)
    rw [List.countP_cons, List.map_cons, List.sum_cons]
    by_cases hresolving : call.resolving = true
    · rw [if_pos hresolving, (h call List.mem_cons_self).lease_of_resolving hresolving]
      change _ + 1 ≤ 1 + _
      omega
    · rw [if_neg hresolving]
      omega

/-- **Every permit is given back once, after its lookup.** In every run of any number of calls that share `bound`
permits:

* a permit is given back at most once, never where all are free, and once the creator has returned and the worker has
  ended or never claimed the lease, it has been given back;
* while the resolver of a call runs, the call's permit has been taken and not been given back, so that the resolvers
  that run and the free permits are at most `bound`;
* a worker that has not claimed the lease when its creator has returned never enters the resolver.

**Proof sketch.** The lease names the one thread that owes the permit, and the permits are free or held by a lease
(`balanced_run`). A creator that has returned owes nothing; the worker owes the permit from its claim to its end. -/
theorem permit_released_once (bound : ℕ) (moves : List (Move A)) :
    let s := Machine.run System.serve (System.initial A bound) moves
    let obs := Machine.trace System.serve (System.initial A bound) moves
    (∀ i, obs.count (i, .acquired) ≤ 1 ∧ obs.count (i, .released) ≤ obs.count (i, .acquired) ∧
      (i, .overrun) ∉ obs) ∧
    (∀ i call, s.calls[i]? = some call → call.Returned → (call.worker = .ended ∨ (i, .claimed) ∉ obs) →
      obs.count (i, .released) = obs.count (i, .acquired)) ∧
    (∀ i call, s.calls[i]? = some call → call.resolving = true →
      obs.count (i, .acquired) = 1 ∧ obs.count (i, .released) = 0) ∧
    s.slots.value + s.calls.countP Call.resolving ≤ bound ∧
    ∀ i call later, s.calls[i]? = some call → call.Returned → (i, .claimed) ∉ obs →
      (i, .entered) ∉ Machine.trace System.serve (System.initial A bound) (moves ++ later) := by
  intro s obs
  have h : Balanced bound s obs := balanced_run bound moves
  refine ⟨fun i => ?_, fun i call hcall hreturned hworker => ?_, fun i call hcall hresolving => ?_, ?_,
    fun i call later hcall hreturned hclaimed hentered => ?_⟩
  · cases hcall : s.calls[i]? with
    | none =>
      have hunseen := h.unseen i hcall
      rw [List.count_eq_zero.mpr (hunseen _), List.count_eq_zero.mpr (hunseen _)]
      exact ⟨Nat.zero_le _, Nat.le_refl _, h.noOverrun i⟩
    | some call =>
      have hseen := h.seen i call hcall
      rw [hseen.taken, hseen.givenBack]
      refine ⟨?_, ?_, h.noOverrun i⟩
      · cases call.lease <;> simp [Lease.taken]
      · cases call.lease <;> simp [Lease.taken, Lease.returned]
  · have hseen := h.seen i call hcall
    rw [hseen.taken, hseen.givenBack]
    have hcreator := hseen.coherent.returned hreturned
    have hnot : call.lease ≠ .worker := by
      rcases hworker with hended | hclaimed
      · rw [hseen.coherent.ended hended]
        decide
      · exact mt hseen.claims hclaimed
    cases hlease : call.lease with
    | new => rfl
    | released => rfl
    | creator => exact absurd hlease hcreator
    | worker => exact absurd hlease hnot
  · have hseen := h.seen i call hcall
    rw [hseen.taken, hseen.givenBack, hseen.coherent.lease_of_resolving hresolving]
    exact ⟨rfl, rfl⟩
  · have hpermits := h.permits
    unfold System.held at hpermits
    have hle : s.calls.countP Call.resolving ≤ (s.calls.map fun call => call.lease.held).sum := by
      apply countP_resolving_le
      intro call hmem
      obtain ⟨i, hi⟩ := List.mem_iff_getElem?.mp hmem
      exact (h.seen i call hi).coherent
    omega
  · obtain ⟨hbalanced, -, hnever⟩ := Abandoned.run ⟨⟨call, hcall, hreturned⟩, hclaimed⟩ h later
    rw [Machine.trace_append] at hentered
    -- Whoever has entered the resolver has claimed the lease.
    obtain ⟨call', hcall'⟩ : ∃ call', (Machine.run System.serve s later).calls[i]? = some call' := by
      cases hi : (Machine.run System.serve s later).calls[i]? with
      | none => exact absurd hentered (hbalanced.unseen i hi _)
      | some call' => exact ⟨call', rfl⟩
    exact hnever ((hbalanced.seen i call' hcall').enters hentered)

end Runs

end Probe

end Misscomputer
