import Misscomputer.Durable.Lifecycle
import Misscomputer.Durable.Timely
import Misscomputer.Miner.Lane

set_option relaxedAutoImplicit false
set_option autoImplicit false

/-!
# The capacity that receipts report

A receipt reports what the store held and had in use when the outcome was decided, and is not signed
when that exceeds the budget. A handler decides at a time it read before it waited. If a hold expired
in between and its capacity was admitted again, the handler counts the hold once more, or commits it,
and the sum exceeds the budget: the receipt is not signed.

## Main definitions

* `Miner.transactions` — the store transactions of a run, in commit order.
* `Miner.TimelyRun` — no hold counted in the run had expired at an earlier admission.

## Main results

* `Miner.step_flow` — where the outcomes that processes carry come from.
* `Miner.receipts_within_budget` — every receipt of a timely run can be signed.
* `Miner.stale_commit_over_budget` — a run with a commit that waited, and a receipt that is not signed.

## References

* `pkg/miner/sandbox.go`
-/

namespace Misscomputer.Miner

open Sandbox Protocol Durable

variable {cfg : LaneConfig} {s s' : Lane} {p : Proc} {c : Choice} {qs : List Proc}
  {obs : List Observation}

/-! ## Transactions of a run -/

/-- The transaction that an observation is. -/
def Observation.op? : Observation → Option LeaseOp
  | .tx op => some op
  | .occupancy _ | .create _ | .destroy _ | .receipt _ _ _ => none

/-- The time at which an observation counts the holds. -/
def Observation.countsAt : Observation → Option ℤ
  | .tx op => op.countsAt
  | .occupancy now => some now
  | .create _ | .destroy _ | .receipt _ _ _ => none

/-- The store transactions of a run, in commit order. -/
def transactions (obs : List Observation) : List LeaseOp := obs.filterMap Observation.op?

/-- The outcome a process is about to hand to `SandboxLane.receipt`. -/
def Proc.outcome? : Proc → Option SandboxOutcome
  | .sign _ o _ => some o
  | .commitUnlock _ o => o
  | _ => none

/-- **Where outcomes come from.** A step leaves the store alone and passes on the outcome it had; or
it runs one transaction, and its outcome is the answer; or it reads the occupancy. -/
inductive Flow (cfg : LaneConfig) (s : Lane) (p : Proc) (s' : Lane) (qs : List Proc)
    (obs : List Observation) : Prop
  | keep (store : s'.store = s.store)
      (outcomes : ∀ q ∈ qs, ∀ o, q.outcome? = some o → p.outcome? = some o)
      (quiet : ∀ x ∈ obs, x.op? = none ∧ x.countsAt = none ∧
        ∀ doc o a, x = .receipt doc o a → p.outcome? = some o)
  | run (op : LeaseOp) (fate : Fate) (store : s'.store = (s.tx cfg op fate).1.store)
      (outcomes : ∀ q ∈ qs, ∀ o, q.outcome? = some o → (s.tx cfg op fate).2.1.outcome? = some o)
      (seen : obs = (s.tx cfg op fate).2.2)
  | read (now : ℤ) (store : s'.store = s.store)
      (outcomes : ∀ q ∈ qs, ∀ o, q.outcome? = some o →
        (o.held, o.active) = sandboxOccupancyTx s.store now)
      (seen : obs = [.occupancy now])

/-- The answer of a transaction that answers an outcome. -/
lemma outcome?_of_eq {a : LeaseAnswer} {o : SandboxOutcome} (h : a = .outcome o) :
    a.outcome? = some o := by
  rw [h]
  rfl

lemma commitStep_flow (h : commitStep cfg s p c = some (s', qs, obs)) :
    Flow cfg s p s' qs obs := by
  unfold commitStep at h
  split at h
  · split at h <;> cases h <;> exact .keep rfl (by simp [Proc.outcome?]) (by simp)
  · split at h <;> cases h <;> exact .keep rfl (by simp [Proc.outcome?]) (by simp)
  · cases h
    exact .keep rfl (by simp [Proc.outcome?]) (by simp)
  · split at h <;> cases h <;> exact .keep rfl (by simp [Proc.outcome?]) (by simp)
  · dsimp only at h
    split at h
    · rename_i o ho
      split at h <;> cases h <;>
        exact .run _ _ rfl (by simp [Proc.outcome?, outcome?_of_eq ho]) rfl
    · cases h
      exact .run _ _ rfl (by simp [Proc.outcome?]) rfl
  · rename_i lease outcome
    cases h
    refine .keep rfl ?_ (by simp)
    cases outcome <;> simp [Proc.outcome?]
  · cases h
    exact .keep rfl (by simp [Proc.outcome?]) (by simp)
  · cases h
    exact .keep rfl (by simp [Proc.outcome?]) (by simp)
  · cases h
    exact .keep rfl (by simp [Proc.outcome?]) (by simp)
  · dsimp only at h
    split at h
    · rename_i o ho
      cases h
      exact .run _ _ rfl (by simp [Proc.outcome?, outcome?_of_eq ho]) rfl
    · cases h
      exact .run _ _ rfl (by simp) rfl
  · cases h

lemma appear_store (s : Lane) (i : SandboxInstance) : (s.appear i).store = s.store := by
  unfold Lane.appear
  split <;> rfl

lemma startStep_flow (h : startStep cfg s p c = some (s', qs, obs)) :
    Flow cfg s p s' qs obs := by
  unfold startStep at h
  split at h
  · split at h <;> cases h <;> exact .keep rfl (by simp [Proc.outcome?]) (by simp)
  · cases h
    exact .keep (appear_store _ _) (by simp [Proc.outcome?]) (by simp)
  · cases h
    exact .keep rfl (by simp [Proc.outcome?]) (by simp)
  · cases h
    exact .keep (appear_store _ _) (by simp [Proc.outcome?])
      (by simp [Observation.op?, Observation.countsAt])
  · split at h
    · cases h
      exact .keep rfl (by simp [Proc.outcome?]) (by simp)
    · cases h
  · cases h
    exact .keep rfl (by simp [Proc.outcome?]) (by simp)
  · dsimp only at h
    split at h <;> cases h <;> exact .run _ _ rfl (by simp [Proc.outcome?]) rfl
  · cases h
    exact .keep rfl (by simp [Proc.outcome?]) (by simp)
  · dsimp only at h
    split at h <;> cases h <;> exact .run _ _ rfl (by simp [Proc.outcome?]) rfl
  · cases h
    exact .run _ _ rfl (by simp [Proc.outcome?]) rfl
  · cases h
    exact .keep rfl (by simp [Proc.outcome?]) (by simp)
  · cases h
    exact .keep rfl (by simp) (by simp)
  · cases h

lemma teardownStep_flow (h : teardownStep cfg s p c = some (s', qs, obs)) :
    Flow cfg s p s' qs obs := by
  unfold teardownStep at h
  split at h
  · cases h
    exact .keep rfl (by simp [Proc.outcome?]) (by simp [Observation.op?, Observation.countsAt])
  · cases h
    exact .keep rfl (by simp [Proc.outcome?]) (by simp)
  · split at h
    · cases h
    · cases h
      exact .keep rfl (by simp [Proc.outcome?]) (by simp)
  · cases h
    exact .keep rfl (by simp [Proc.outcome?]) (by simp)
  · dsimp only at h
    split at h <;> cases h <;> exact .run _ _ rfl (by simp [Proc.outcome?]) rfl
  · cases h
    exact .keep rfl (by simp [Proc.outcome?]) (by simp)
  · cases h
    exact .keep rfl (by simp [Proc.outcome?]) (by simp)
  · split at h <;> cases h <;> exact .keep rfl (by simp [Proc.outcome?]) (by simp)
  · split at h <;> cases h <;> exact .keep rfl (by simp [Proc.outcome?]) (by simp)
  · cases h
    exact .keep rfl (by simp [Proc.outcome?]) (by simp)
  · cases h

lemma releaseStep_flow (h : releaseStep cfg s p c = some (s', qs, obs)) :
    Flow cfg s p s' qs obs := by
  unfold releaseStep at h
  split at h
  · dsimp only at h
    split at h
    · rename_i o ho
      cases h
      refine .run _ _ rfl ?_ rfl
      simp only [List.mem_singleton, forall_eq, Proc.outcome?, Option.some.injEq]
      rintro _ rfl
      rw [ho]
      rfl
    · cases h
      exact .run _ _ rfl (by simp [Proc.outcome?]) rfl
    · cases h
      exact .run _ _ rfl (by simp) rfl
  · cases h
    refine .read _ rfl ?_ rfl
    simp only [List.mem_singleton, forall_eq, Proc.outcome?, Option.some.injEq]
    rintro _ rfl
    rfl
  · dsimp only at h
    split at h <;> cases h <;> exact .run _ _ rfl (by simp [Proc.outcome?]) rfl
  · cases h

lemma orphanStep_flow (h : orphanStep s p c = some (s', qs, obs)) : Flow cfg s p s' qs obs := by
  unfold orphanStep at h
  split at h
  · cases h
    exact .keep rfl (by simp [Proc.outcome?]) (by simp)
  · cases h
    exact .keep rfl (by simp) (by simp)
  · split at h <;> cases h <;> exact .keep rfl (by simp [Proc.outcome?]) (by simp)
  · split at h <;> cases h <;> exact .keep rfl (by simp [Proc.outcome?]) (by simp)
  · cases h
    exact .keep rfl (by simp [Proc.outcome?]) (by simp)
  · cases h
    exact .keep rfl (by simp [Proc.outcome?]) (by simp [Observation.op?, Observation.countsAt])
  · cases h
    exact .keep rfl (by simp [Proc.outcome?]) (by simp)
  · split at h
    · cases h
    · cases h
      exact .keep rfl (by simp [Proc.outcome?]) (by simp)
  · cases h
    exact .keep rfl (by simp [Proc.outcome?]) (by simp)
  · cases h
    exact .keep rfl (by simp [Proc.outcome?]) (by simp)
  · cases h

/-- Every step follows `Flow`. -/
lemma step_flow (h : p.step cfg s c = some (s', qs, obs)) : Flow cfg s p s' qs obs := by
  unfold Proc.step at h
  split at h
  case h_1 doc op fate =>
    dsimp only at h
    split at h
    · rename_i o ho
      cases h
      exact .run _ _ rfl (by simp [Proc.outcome?, outcome?_of_eq ho]) rfl
    · cases h
      exact .run _ _ rfl (by simp) rfl
  case h_2 doc o now =>
    cases h
    refine .keep rfl (by simp) ?_
    simp [Observation.op?, Observation.countsAt, Proc.outcome?]
  all_goals first
    | exact commitStep_flow h
    | exact startStep_flow h
    | exact teardownStep_flow h
    | exact releaseStep_flow h
    | exact orphanStep_flow h
    | cases h

/-! ## Timely runs -/

/-- The tables after the transactions of a run. -/
def storeAfter (cfg : LaneConfig) (obs : List Observation) : LeaseStore :=
  Machine.run (serve cfg.wire cfg.budget) .empty (transactions obs)

/-- The times at which the transactions of a run admitted capacity. -/
def admittedAfter (cfg : LaneConfig) (obs : List Observation) : List ℤ :=
  admissions cfg.wire cfg.budget .empty (transactions obs)

/-- **No hold that is counted in the run had expired when capacity was admitted before**: wherever a
transaction counts the holds at a time, every hold that counts was not expired at any earlier
admission. -/
def TimelyRun (cfg : LaneConfig) (obs : List Observation) : Prop :=
  ∀ before x after now, obs = before ++ x :: after → x.countsAt = some now →
    Timely (admittedAfter cfg before) (storeAfter cfg before) now

/-- What is held and in use is within the budget, together and apart. -/
def Fits (budget : Capacity) (o : SandboxOutcome) : Prop :=
  (o.held.plus o.active).within budget = true ∧ o.held.within budget = true ∧
    o.active.within budget = true

lemma storeAfter_append (cfg : LaneConfig) (obs obs' : List Observation) :
    storeAfter cfg (obs ++ obs') =
      Machine.run (serve cfg.wire cfg.budget) (storeAfter cfg obs) (transactions obs') := by
  rw [storeAfter, transactions, List.filterMap_append, Machine.run_append]
  rfl

lemma admittedAfter_append (cfg : LaneConfig) (obs obs' : List Observation) :
    admittedAfter cfg (obs ++ obs') = admittedAfter cfg obs ++
      admissions cfg.wire cfg.budget (storeAfter cfg obs) (transactions obs') := by
  rw [admittedAfter, transactions, List.filterMap_append, admissions_append]
  rfl

/-- The invariant of a run with the observations `obs` so far. -/
structure ReceiptsFit (cfg : LaneConfig) (s : Pool.Config Lane Proc) (obs : List Observation) :
    Prop where
  store : s.shared.store = storeAfter cfg obs
  sound : s.shared.store.Sound
  admitted : Admitted cfg.budget (admittedAfter cfg obs) s.shared.store
  procs : ∀ p ∈ s.procs, ∀ o, p.outcome? = some o → Fits cfg.budget o
  receipts : ∀ doc o a, .receipt doc o a ∈ obs → Fits cfg.budget o

/-- A transaction follows the tables of the run, and reports what fits. -/
lemma ReceiptsFit.tx {obs : List Observation} {s : Pool.Config Lane Proc} (h : ReceiptsFit cfg s obs)
    (op : LeaseOp) (fate : Fate)
    (htimely : ∀ now, op.countsAt = some now → fate ≠ .rollsBack →
      Timely (admittedAfter cfg obs) (storeAfter cfg obs) now) :
    (s.shared.tx cfg op fate).1.store = storeAfter cfg (obs ++ (s.shared.tx cfg op fate).2.2) ∧
      (s.shared.tx cfg op fate).1.store.Sound ∧
      Admitted cfg.budget (admittedAfter cfg (obs ++ (s.shared.tx cfg op fate).2.2))
        (s.shared.tx cfg op fate).1.store ∧
      ∀ o, (s.shared.tx cfg op fate).2.1.outcome? = some o → Fits cfg.budget o := by
  have hcommit : fate ≠ .rollsBack →
      (serve cfg.wire cfg.budget s.shared.store op).1 = storeAfter cfg (obs ++ [.tx op]) ∧
      Admitted cfg.budget (admittedAfter cfg (obs ++ [.tx op]))
        (serve cfg.wire cfg.budget s.shared.store op).1 := by
    intro hfate
    have hnext := h.admitted.next (w := cfg.wire) h.sound op fun now hnow => by
      rw [h.store]
      exact htimely now hnow hfate
    rw [storeAfter_append, admittedAfter_append, ← h.store]
    refine ⟨rfl, ?_⟩
    have hadm : admissions cfg.wire cfg.budget s.shared.store (transactions [.tx op]) =
        admittedBy cfg.wire cfg.budget s.shared.store op := by
      simp [transactions, Observation.op?, admissions]
    rw [hadm]
    exact hnext
  have hsound : (serve cfg.wire cfg.budget s.shared.store op).1.Sound := serve_sound h.sound op
  cases fate with
  | commits =>
    refine ⟨(hcommit (by simp)).1, hsound, (hcommit (by simp)).2, fun o ho => ?_⟩
    refine h.admitted.outcome_within h.sound ho fun now hnow => ?_
    rw [h.store]
    exact htimely now hnow (by simp)
  | rollsBack =>
    simp only [Lane.tx, List.append_nil]
    exact ⟨h.store, h.sound, h.admitted, by simp [LeaseAnswer.outcome?]⟩
  | unreported =>
    exact ⟨(hcommit (by simp)).1, hsound, (hcommit (by simp)).2, by simp [Lane.tx, LeaseAnswer.outcome?]⟩

lemma spawn_outcome {r : Request} (h : spawn cfg s r = some p) : p.outcome? = none := by
  cases r <;> simp only [spawn, Option.ite_none_right_eq_some] at h
  case sweep => cases h; rfl
  all_goals
    obtain ⟨-, h⟩ := h
    cases h
    rfl

/-- Observations that are no transactions leave the tables of the run alone. -/
lemma transactions_quiet {obs : List Observation} (h : ∀ x ∈ obs, x.op? = none) :
    transactions obs = [] := by
  rw [transactions, List.filterMap_eq_nil_iff]
  exact h

/-- **One event keeps the invariant**, if the run with its observations is timely. -/
lemma ReceiptsFit.serve {s : Pool.Config Lane Proc} {obs : List Observation}
    (h : ReceiptsFit cfg s obs) (e : LaneEvent)
    (htimely : TimelyRun cfg (obs ++ Machine.answer (lane cfg).serve s e)) :
    ReceiptsFit cfg (Machine.next (lane cfg).serve s e)
      (obs ++ Machine.answer (lane cfg).serve s e) := by
  obtain heq | ⟨r, p, -, hp, heq⟩ | ⟨i, c, pre, p, post, s', qs, new, -, hprocs, -, hstep, heq⟩ |
    ⟨x, -, heq⟩ := (lane cfg).serve_cases s e
  · simp only [Machine.next, Machine.answer, heq, List.append_nil]
    exact h
  · simp only [Machine.next, Machine.answer, heq, List.append_nil]
    refine ⟨h.store, h.sound, h.admitted, fun q hq o ho => ?_, h.receipts⟩
    rcases List.mem_append.mp hq with hq | hq
    · exact h.procs q hq o ho
    · -- a handler that has just started carries no outcome
      rw [List.mem_singleton.mp hq, spawn_outcome hp] at ho
      cases ho
  · simp only [Machine.next, Machine.answer, heq] at htimely ⊢
    have hmem : p ∈ s.procs := hprocs ▸ by simp
    have hothers : (∀ q ∈ qs, ∀ o, q.outcome? = some o → Fits cfg.budget o) →
        ∀ q ∈ pre ++ qs ++ post, ∀ o, q.outcome? = some o → Fits cfg.budget o := by
      intro hqs q hq
      rw [List.append_assoc, List.mem_append, List.mem_append] at hq
      rcases hq with hq | hq | hq
      · exact h.procs q (hprocs ▸ by simp [hq])
      · exact hqs q hq
      · exact h.procs q (hprocs ▸ by simp [hq])
    cases step_flow hstep with
    | keep store outcomes quiet =>
      have hnil : transactions new = [] := transactions_quiet fun x hx => (quiet x hx).1
      refine ⟨?_, ?_, ?_, hothers fun q hq o ho => h.procs p hmem o (outcomes q hq o ho), ?_⟩
      · rw [store, storeAfter_append, hnil]
        exact h.store
      · rw [store]
        exact h.sound
      · rw [store, admittedAfter_append, hnil, admissions, List.append_nil]
        exact h.admitted
      · intro doc o a hx
        rcases List.mem_append.mp hx with hx | hx
        · exact h.receipts doc o a hx
        · exact h.procs p hmem o ((quiet _ hx).2.2 doc o a rfl)
    | run op fate store outcomes seen =>
      obtain ⟨hstore, hsound, hadm, hout⟩ := h.tx op fate fun now hnow hfate => by
        refine htimely obs (.tx op) [] now ?_ hnow
        rw [seen]
        cases fate with
        | rollsBack => exact absurd rfl hfate
        | commits => rfl
        | unreported => rfl
      refine ⟨?_, ?_, ?_, hothers fun q hq o ho => hout o (outcomes q hq o ho), ?_⟩
      · rw [store, seen]
        exact hstore
      · rw [store]
        exact hsound
      · rw [store, seen]
        exact hadm
      · intro doc o a hx
        rcases List.mem_append.mp hx with hx | hx
        · exact h.receipts doc o a hx
        · rw [seen] at hx
          cases fate <;> simp [Lane.tx] at hx
    | read now store outcomes seen =>
      have ht : Timely (admittedAfter cfg obs) s.shared.store now := by
        rw [h.store]
        exact htimely obs (.occupancy now) [] now (by rw [seen]) rfl
      have hfits := within_of_occupancyAt_le h.sound (h.admitted.at_timely h.sound ht)
      have hnil : transactions new = [] := by
        rw [seen]
        rfl
      refine ⟨?_, ?_, ?_, hothers fun q hq o ho => ?_, ?_⟩
      · rw [store, storeAfter_append, hnil]
        exact h.store
      · rw [store]
        exact h.sound
      · rw [store, admittedAfter_append, hnil, admissions, List.append_nil]
        exact h.admitted
      · rw [← outcomes q hq o ho] at hfits
        exact hfits
      · intro doc o a hx
        rcases List.mem_append.mp hx with hx | hx
        · exact h.receipts doc o a hx
        · rw [seen] at hx
          simp at hx
  · simp only [Machine.next, Machine.answer, heq, List.append_nil]
    exact ⟨h.store, h.sound, h.admitted, h.procs, h.receipts⟩

lemma TimelyRun.left {obs obs' : List Observation} (h : TimelyRun cfg (obs ++ obs')) :
    TimelyRun cfg obs := by
  intro before x after now heq hnow
  exact h before x (after ++ obs') now (by rw [heq, List.append_assoc, List.cons_append]) hnow

/-- Every run keeps the invariant. -/
lemma ReceiptsFit.run {s : Pool.Config Lane Proc} {obs : List Observation}
    (h : ReceiptsFit cfg s obs) (events : List LaneEvent)
    (htimely : TimelyRun cfg (obs ++ Machine.trace (lane cfg).serve s events)) :
    ReceiptsFit cfg (Machine.run (lane cfg).serve s events)
      (obs ++ Machine.trace (lane cfg).serve s events) := by
  induction events generalizing s obs with
  | nil => simpa [Machine.trace] using h
  | cons e events ih =>
    rw [Machine.trace, ← List.append_assoc] at htimely ⊢
    exact ih (h.serve e htimely.left) htimely

/-- **Every receipt of a timely run can be signed.** For every interleaving of `Reserve`,
`ReplayReservation`, `Commit`, `Renew` and `Release` handlers, of starts and of sweeps, from empty
tables, with clock readings and transactions at any moments: if no hold that is counted in the run had
expired at an earlier admission, every outcome that is handed to `SandboxLane.receipt` reports a
capacity held and in use within the budget, together and apart, and its receipt passes the capacity
check.

**Proof sketch.** From the last admission on the sum is within the budget; a timely transaction counts
only holds that count there too, so what it reports is within the budget, and what it commits was
counted. -/
theorem receipts_within_budget (cfg : LaneConfig)
    (hbudget : Capacity.zero.within cfg.budget = true) (events : List LaneEvent)
    (htimely : TimelyRun cfg (Machine.trace (lane cfg).serve (Lane.init .empty) events)) :
    ∀ doc o a, .receipt doc o a ∈ Machine.trace (lane cfg).serve (Lane.init .empty) events →
      (o.held.plus o.active).within cfg.budget = true ∧ o.held.within cfg.budget = true ∧
        o.active.within cfg.budget = true ∧
        ∀ digest now, (cfg.unsigned doc digest o now).fits = true := by
  intro doc o a hmem
  have hzero : (0 : Capacity) ≤ cfg.budget := ((Capacity.within_iff _ _).mp hbudget).2
  have hinit : ReceiptsFit cfg (Lane.init .empty) [] :=
    ⟨rfl, .empty, fun t _ => hzero, by simp [Lane.init], by simp⟩
  obtain ⟨hsum, hheld, hactive⟩ := (hinit.run events htimely).receipts doc o a hmem
  refine ⟨hsum, hheld, hactive, fun digest now => ?_⟩
  simp [SandboxReceiptV1.fits, LaneConfig.unsigned, hsum, hheld, hactive]

/-- The clock readings of a run. -/
def clocks (events : List LaneEvent) : List ℤ :=
  events.filterMap fun
    | .env now => some now
    | .arrive _ | .run _ _ => none

/-! ## A commit that waited -/

namespace Sample

open Protocol.Sample
open Durable.Sample (digest)

variable {a b : Char} {validator : String}

/-- Room for one sandbox of the sample size. -/
def oneSandbox : Capacity := ⟨1000, 5120, 1024, 1⟩

/-- A lane with the sample documents. -/
def config (budget : Capacity) : LaneConfig where
  wire := wire
  budget := budget
  minerID := "miner"
  verify _ _ := true
  renewalDigest r := some r.leaseDigest
  releaseDigest _ := some ("sha256:" ++ repeated '0' 64)
  sign _ := repeated 'e' 128
  backendUnsupported _ := ""

/-- The first reservation is held until time 10. -/
def firstHeld (a : Char) (validator : String) : LeaseStore := ⟨[Durable.Sample.holdRow a validator 10], [], []⟩

/-- The second one is held from time 12 on, until time 20. -/
def secondRow (b : Char) (validator : String) : HoldRow :=
  Durable.holdRow (reservation b validator 20) (digest b) 12

def bothHeld (a b : Char) (validator : String) : LeaseStore :=
  ⟨[Durable.Sample.holdRow a validator 10, secondRow b validator], [], []⟩

/-- The lease for the first one is committed at time 5, after that. -/
def lateRow (a : Char) (validator : String) : LeaseRow :=
  Durable.leaseRow (lease a validator 60) (Durable.Sample.holdRow a validator 10).holdID (digest a) 5

def lateCommitted (a b : Char) (validator : String) : LeaseStore :=
  ⟨[{ Durable.Sample.holdRow a validator 10 with status := .committed, updatedAtNs := 5 }, secondRow b validator],
    [lateRow a validator], []⟩

lemma repeated_ne (h : a ≠ b) : repeated a 32 ≠ repeated b 32 := by
  intro heq
  have hl := congrArg String.toList heq
  simp only [repeated, String.toList_ofList] at hl
  exact h (List.replicate_right_injective (by decide) hl)

lemma sandboxID_ne (h : a ≠ b) : "sbx-" ++ repeated a 32 ≠ "sbx-" ++ repeated b 32 := by
  intro heq
  have hl := congrArg String.toList heq
  simp only [String.toList_append] at hl
  exact repeated_ne h (String.toList_injective (List.append_cancel_left hl))

lemma sandboxIdentity_ne (h : a ≠ b) (nonce nonce' : String) :
    sandboxIdentity ("sbx-" ++ repeated a 32) "miner" 1 nonce ≠
      sandboxIdentity ("sbx-" ++ repeated b 32) "miner" 1 nonce' := by
  intro heq
  have hl := congrArg String.toList heq
  simp only [sandboxIdentity, String.append_assoc, String.toList_append, repeated,
    String.toList_ofList] at hl
  have hrep := (List.append_inj (List.append_cancel_left hl) (by simp)).1
  exact h (List.replicate_right_injective (by decide) hrep)

lemma digest_ne (h : a ≠ b) : digest a ≠ digest b := by
  intro heq
  have hl := congrArg String.toList heq
  simp only [digest, String.toList_append, repeated, String.toList_ofList] at hl
  have hrep := (List.append_inj (List.append_cancel_left hl) (by simp)).1
  exact h (List.replicate_right_injective (by decide) hrep)

lemma identity_ne (h : a ≠ b) :
    (reservation a validator 10).identity ≠ (reservation b validator 20).identity := by
  intro heq
  exact sandboxID_ne h (congrArg (·.sandboxID) heq)

lemma serve_first (ha : hexDigit a = true) (hv : validator ≠ "") :
    serve wire oneSandbox .empty (.hold (reservation a validator 10) 1) =
      (firstHeld a validator, .outcome (finish (firstHeld a validator) 1 { stage := .held }).1) := by
  have hhold : hold wire oneSandbox .empty (reservation a validator 10) 1 =
      .ok (finish (firstHeld a validator) 1 { stage := .held }) :=
    hold_accepts (reservation_valid ha hv (by decide) (by decide)) rfl
      (show (1 : ℕ) < 2 ^ 63 by decide) rfl rfl (show (1 : ℤ) < 10 by decide)
      (show ((Capacity.zero.plus .zero).add resources).within oneSandbox = true by decide)
      (by simp [LeaseStore.empty])
  simp only [serve, hhold, settle, finish]

lemma serve_second (hb : hexDigit b = true) (hv : validator ≠ "") (hne : a ≠ b) :
    serve wire oneSandbox (firstHeld a validator) (.hold (reservation b validator 20) 12) =
      (bothHeld a b validator,
        .outcome (finish (bothHeld a b validator) 12 { stage := .held }).1) := by
  have hid : (reservation a validator 10).identity ≠ (reservation b validator 20).identity :=
    identity_ne hne
  have hnonce := repeated_ne hne
  have hnone : (firstHeld a validator).holdOf (reservation b validator 20).identity = none := by
    have hrow : (Durable.Sample.holdRow a validator 10).identity =
        (reservation a validator 10).identity := rfl
    simp [LeaseStore.holdOf, firstHeld, hrow, hid]
  have hexpired : (Durable.Sample.holdRow a validator 10).holdsAt 12 = false := rfl
  have hocc : sandboxOccupancyTx (firstHeld a validator) 12 = (.zero, .zero) := by
    simp only [sandboxOccupancyTx, firstHeld, Table.sumWhere_cons, hexpired, Bool.false_eq_true, if_false]
    rfl
  have hhold : hold wire oneSandbox (firstHeld a validator) (reservation b validator 20) 12 =
      .ok (finish (bothHeld a b validator) 12 { stage := .held }) := by
    refine hold_accepts (reservation_valid hb hv (by decide) (by decide)) rfl
      (show (1 : ℕ) < 2 ^ 63 by decide) rfl hnone (show (12 : ℤ) < 20 by decide) ?_ ?_
    · rw [hocc]
      exact (show ((Capacity.zero.plus .zero).add resources).within oneSandbox = true by decide)
    · have hholdID : (Durable.Sample.holdRow a validator 10).holdID ≠ (secondRow b validator).holdID :=
        sandboxIdentity_ne hne _ _
      have hdigest : (Durable.Sample.holdRow a validator 10).reservationDigest ≠
        (secondRow b validator).reservationDigest := digest_ne hne
      have hrepeated : (Durable.Sample.holdRow a validator 10).reservationNonce ≠
        (secondRow b validator).reservationNonce := repeated_ne hne
      have hident : (Durable.Sample.holdRow a validator 10).identity ≠ (secondRow b validator).identity :=
        identity_ne hne
      simp only [firstHeld, List.mem_singleton, forall_eq, HoldRow.clashes, Bool.or_eq_false_iff,
        beq_eq_false_iff_ne]
      exact ⟨⟨⟨hholdID, hrepeated⟩, hdigest⟩, hident⟩
  simp only [serve, hhold, settle, finish]

/-- At time 5 the first hold is still live, and its lease is committed. -/
lemma serve_late (ha : hexDigit a = true) (hv : validator ≠ "") (hne : a ≠ b) :
    serve wire oneSandbox (bothHeld a b validator) (.commitLease (lease a validator 60) 5) =
      (lateCommitted a b validator,
        .outcome (finish (lateCommitted a b validator) 5
          { stage := .accepted, leaseID := some (leaseID a), start := true }).1) := by
  have hhold : (bothHeld a b validator).holdOf (lease a validator 60).identity =
      some (Durable.Sample.holdRow a validator 10) := by
    have hid : (Durable.Sample.holdRow a validator 10).identity = (lease a validator 60).identity := rfl
    simp [LeaseStore.holdOf, bothHeld, hid]
  have hcommits : sandboxLeaseCommitsReservationV1 wire
      (Durable.Sample.holdRow a validator 10).reservation (lease a validator 60) = true :=
    Durable.Sample.commits_sample
  have hmark : (bothHeld a b validator).setHolds
      (fun h' => h'.holdID == (Durable.Sample.holdRow a validator 10).holdID && h'.status == .held)
      .committed 5 = { lateCommitted a b validator with leases := [] } := by
    have hheld : (Durable.Sample.holdRow a validator 10).status = .held := rfl
    have hother : (secondRow b validator).holdID ≠ (Durable.Sample.holdRow a validator 10).holdID :=
      (sandboxIdentity_ne hne _ _).symm
    simp [LeaseStore.setHolds, Table.updateWhere, bothHeld, lateCommitted, hheld, hother]
  have hcommit : commitLease wire (bothHeld a b validator) (lease a validator 60) 5 =
      .ok (finish (lateCommitted a b validator) 5
        { stage := .accepted, leaseID := some (leaseID a), start := true }) := by
    rw [commitLease_starts (lease_valid ha hv (by decide) (by decide)) rfl
      (show (1 : ℕ) < 2 ^ 63 by decide) rfl rfl hhold hcommits rfl (show (5 : ℤ) < 60 by decide)
      (by simp [bothHeld]), hmark]
    rfl
  simp only [serve, hcommit, settle, finish]

/-- The answer that counts the second hold next to the lease. -/
def overOutcome (a b : Char) (validator : String) : SandboxOutcome :=
  (finish (lateCommitted a b validator) 12 { stage := .accepted, leaseID := some (leaseID a) }).1

lemma serve_answer (ha : hexDigit a = true) (hv : validator ≠ "") :
    serve wire oneSandbox (lateCommitted a b validator) (.commitLease (lease a validator 60) 12) =
      (lateCommitted a b validator, .outcome (overOutcome a b validator)) := by
  have hlease : (lateCommitted a b validator).leaseOf (lease a validator 60).identity =
      some (lateRow a validator) := by
    have hid : (lateRow a validator).identity = (lease a validator 60).identity := rfl
    simp [LeaseStore.leaseOf, lateCommitted, hid]
  have hcommit : commitLease wire (lateCommitted a b validator) (lease a validator 60) 12 =
      .ok (finish (lateCommitted a b validator) 12
        { stage := .accepted, leaseID := some (leaseID a) }) :=
    commitLease_answers (lease_valid ha hv (by decide) (by decide)) rfl
      (show (1 : ℕ) < 2 ^ 63 by decide) hlease rfl
  simp only [serve, hcommit, settle, finish, overOutcome]

/-- The state of a lane with one room. -/
def stateAt (clock : ℤ) (store : LeaseStore) (locks starts : List String) (procs : List Proc) :
    Pool.Config Lane Proc := ⟨⟨clock, store, locks, starts, []⟩, procs⟩

/-- The first reservation is held at time 1. -/
def firstEvents (a : Char) (validator : String) : List LaneEvent :=
  [.env 1, .arrive (.reserve (reservation a validator 10)), .run 0 (.tx .commits), .run 0 .next]

/-- `Commit` of its lease reads the clock at time 5 and waits; the second reservation is held at
time 12. -/
def secondEvents (a b : Char) (validator : String) : List LaneEvent :=
  [.env 5, .arrive (.commit (lease a validator 60)), .env 12,
    .arrive (.reserve (reservation b validator 20)), .run 1 (.tx .commits), .run 1 .next]

/-- `Commit` takes the lock, commits at time 5 and begins the start. -/
def thirdEvents : List LaneEvent := [.run 0 .next, .run 0 .next, .run 0 (.tx .commits), .run 0 .next]

/-- `Commit` answers the durable stage. -/
def fourthEvents : List LaneEvent := [.run 1 .next, .run 1 .next, .run 1 (.tx .commits)]

/-- The whole run, up to the receipt of the lease. -/
def staleRun (a b : Char) (validator : String) : List LaneEvent :=
  firstEvents a validator ++ secondEvents a b validator ++ thirdEvents ++ fourthEvents ++
    [.run 1 .next]

lemma config_serve (budget : Capacity) (s : LeaseStore) (op : LeaseOp) :
    serve (config budget).wire (config budget).budget s op = serve wire budget s op := rfl

lemma next_env (budget : Capacity) (clock now : ℤ) (store : LeaseStore) (locks starts : List String)
    (procs : List Proc) :
    Machine.next (lane (config budget)).serve (stateAt clock store locks starts procs) (.env now) =
      stateAt now store locks starts procs := rfl

lemma next_reserve (budget : Capacity) (clock : ℤ) (store : LeaseStore) (locks starts : List String)
    (procs : List Proc) (r : SandboxReservationV1) :
    Machine.next (lane (config budget)).serve (stateAt clock store locks starts procs)
      (.arrive (.reserve r)) =
      stateAt clock store locks starts (procs ++ [.request (.reservation r) (.hold r clock)]) := rfl

section Steps

variable {budget : Capacity} {clock now : ℤ} {store store' : LeaseStore} {locks starts : List String}
  {procs : List Proc} {i : ℕ} {doc : Document} {op : LeaseOp} {l : SandboxLeaseV1} {o : SandboxOutcome}

lemma step_request (h : serve wire budget store op = (store', .outcome o)) :
    (lane (config budget)).step ⟨clock, store, locks, starts, []⟩ (.request doc op) (.tx .commits) =
      some (⟨clock, store', locks, starts, []⟩, [.sign doc o (observedAt o op)], [.tx op]) := by
  simp only [lane, Proc.step, Lane.tx, config_serve, h]

/-- A request runs its transaction, and is about to sign its answer. -/
lemma next_request (hp : procs[i]? = some (.request doc op))
    (h : serve wire budget store op = (store', .outcome o)) :
    Machine.next (lane (config budget)).serve (stateAt clock store locks starts procs)
      (.run i (.tx .commits)) =
      stateAt clock store' locks starts
        (procs.take i ++ [.sign doc o (observedAt o op)] ++ procs.drop (i + 1)) :=
  (lane (config budget)).next_run hp (step_request h)

/-- `Commit` runs its transaction under the lock, and begins the start. -/
lemma next_commitLocked (hp : procs[i]? = some (.commitLocked l now))
    (h : serve wire budget store (.commitLease l now) = (store', .outcome o)) (hstart : o.start = true) :
    Machine.next (lane (config budget)).serve (stateAt clock store locks starts procs)
      (.run i (.tx .commits)) =
      stateAt clock store' locks starts
        (procs.take i ++ [.commitBegin l] ++ procs.drop (i + 1)) := by
  have hstep : (lane (config budget)).step ⟨clock, store, locks, starts, []⟩ (.commitLocked l now)
      (.tx .commits) = some (⟨clock, store', locks, starts, []⟩, [.commitBegin l],
        [.tx (.commitLease l now)]) := by
    simp only [lane, Proc.step, commitStep, Lane.tx, config_serve, h, hstart, true_or, if_true]
  exact (lane (config budget)).next_run hp hstep

/-- `answerCommit` runs its transaction, and is about to sign its answer. -/
lemma next_answerTx (hp : procs[i]? = some (.answerTx l now))
    (h : serve wire budget store (.commitLease l now) = (store', .outcome o)) :
    Machine.next (lane (config budget)).serve (stateAt clock store locks starts procs)
      (.run i (.tx .commits)) =
      stateAt clock store' locks starts
        (procs.take i ++ [.sign (.lease l) o now] ++ procs.drop (i + 1)) := by
  have hstep : (lane (config budget)).step ⟨clock, store, locks, starts, []⟩ (.answerTx l now)
      (.tx .commits) = some (⟨clock, store', locks, starts, []⟩, [.sign (.lease l) o now],
        [.tx (.commitLease l now)]) := by
    simp only [lane, Proc.step, commitStep, Lane.tx, config_serve, h]
  exact (lane (config budget)).next_run hp hstep

/-- What is seen of a request's transaction. -/
lemma answer_request (hp : procs[i]? = some (.request doc op))
    (h : serve wire budget store op = (store', .outcome o)) :
    Machine.answer (lane (config budget)).serve (stateAt clock store locks starts procs)
      (.run i (.tx .commits)) = [.tx op] :=
  (lane (config budget)).answer_run hp (step_request h)

/-- An outcome is handed to `SandboxLane.receipt`. -/
lemma answer_sign (hp : procs[i]? = some (.sign doc o now)) :
    Machine.answer (lane (config budget)).serve (stateAt clock store locks starts procs)
      (.run i .next) = [.receipt doc o ((config budget).receipt doc o now)] := by
  have hstep : (lane (config budget)).step ⟨clock, store, locks, starts, []⟩ (.sign doc o now) .next =
      some (⟨clock, store, locks, starts, []⟩, [],
        [.receipt doc o ((config budget).receipt doc o now)]) := rfl
  exact (lane (config budget)).answer_run hp hstep

end Steps

/-- The first hold is reported to the validator. -/
lemma run_first (ha : hexDigit a = true) (hv : validator ≠ "") :
    Machine.run (lane (config oneSandbox)).serve (Lane.init .empty) (firstEvents a validator) =
      stateAt 1 (firstHeld a validator) [] [] [] := by
  have hinit : Lane.init .empty = stateAt 0 .empty [] [] [] := rfl
  have hhold : Machine.next (lane (config oneSandbox)).serve
      (stateAt 1 .empty [] [] [.request (.reservation (reservation a validator 10))
        (.hold (reservation a validator 10) 1)]) (.run 0 (.tx .commits)) =
      stateAt 1 (firstHeld a validator) [] [] [.sign (.reservation (reservation a validator 10))
        (finish (firstHeld a validator) 1 { stage := .held }).1 1] :=
    next_request rfl (serve_first ha hv)
  rw [firstEvents, hinit, Machine.run_cons, next_env, Machine.run_cons, next_reserve, Machine.run_cons,
    List.nil_append, hhold]
  rfl

/-- The second hold is reported, and `Commit` still waits. -/
lemma run_second (hb : hexDigit b = true) (hv : validator ≠ "") (hne : a ≠ b) :
    Machine.run (lane (config oneSandbox)).serve (stateAt 1 (firstHeld a validator) [] [] [])
      (secondEvents a b validator) =
      stateAt 12 (bothHeld a b validator) [] [] [.commit (lease a validator 60) 5] := by
  have hcommit : Machine.next (lane (config oneSandbox)).serve
      (stateAt 5 (firstHeld a validator) [] [] []) (.arrive (.commit (lease a validator 60))) =
      stateAt 5 (firstHeld a validator) [] [] [.commit (lease a validator 60) 5] := rfl
  have hhold : Machine.next (lane (config oneSandbox)).serve
      (stateAt 12 (firstHeld a validator) [] [] [.commit (lease a validator 60) 5,
        .request (.reservation (reservation b validator 20)) (.hold (reservation b validator 20) 12)])
      (.run 1 (.tx .commits)) =
      stateAt 12 (bothHeld a b validator) [] [] [.commit (lease a validator 60) 5,
        .sign (.reservation (reservation b validator 20))
          (finish (bothHeld a b validator) 12 { stage := .held }).1 12] :=
    next_request rfl (serve_second hb hv hne)
  rw [secondEvents, Machine.run_cons, next_env, Machine.run_cons, hcommit, Machine.run_cons, next_env,
    Machine.run_cons, next_reserve, Machine.run_cons, List.singleton_append, hhold]
  rfl

/-- `Commit` takes the lock and commits at the time it read before it waited. -/
lemma run_third (ha : hexDigit a = true) (hv : validator ≠ "") (hne : a ≠ b) :
    Machine.run (lane (config oneSandbox)).serve
      (stateAt 12 (bothHeld a b validator) [] [] [.commit (lease a validator 60) 5]) thirdEvents =
      stateAt 12 (lateCommitted a b validator) [leaseID a] [leaseID a]
        [.startCheck (lease a validator 60), .await (lease a validator 60)] := by
  have hcommit : Machine.next (lane (config oneSandbox)).serve
      (stateAt 12 (bothHeld a b validator) [leaseID a] [] [.commitLocked (lease a validator 60) 5])
      (.run 0 (.tx .commits)) =
      stateAt 12 (lateCommitted a b validator) [leaseID a] [] [.commitBegin (lease a validator 60)] :=
    next_commitLocked rfl (serve_late ha hv hne) rfl
  have hlock : Machine.run (lane (config oneSandbox)).serve
      (stateAt 12 (bothHeld a b validator) [] [] [.commit (lease a validator 60) 5])
      [.run 0 .next, .run 0 .next] =
      stateAt 12 (bothHeld a b validator) [leaseID a] [] [.commitLocked (lease a validator 60) 5] := rfl
  have hevents : thirdEvents = [.run 0 .next, .run 0 .next] ++ [.run 0 (.tx .commits), .run 0 .next] :=
    rfl
  rw [hevents, Machine.run_append, hlock, Machine.run_cons, hcommit]
  rfl

/-- `Commit` answers the durable stage, which counts the second hold next to the lease. -/
lemma run_fourth (ha : hexDigit a = true) (hv : validator ≠ "") :
    Machine.run (lane (config oneSandbox)).serve
      (stateAt 12 (lateCommitted a b validator) [leaseID a] [leaseID a]
        [.startCheck (lease a validator 60), .await (lease a validator 60)]) fourthEvents =
      stateAt 12 (lateCommitted a b validator) [leaseID a] [leaseID a]
        [.startCheck (lease a validator 60),
          .sign (.lease (lease a validator 60)) (overOutcome a b validator) 12] := by
  have hread : Machine.run (lane (config oneSandbox)).serve
      (stateAt 12 (lateCommitted a b validator) [leaseID a] [leaseID a]
        [.startCheck (lease a validator 60), .await (lease a validator 60)])
      [.run 1 .next, .run 1 .next] =
      stateAt 12 (lateCommitted a b validator) [leaseID a] [leaseID a]
        [.startCheck (lease a validator 60), .answerTx (lease a validator 60) 12] := rfl
  have hanswer : Machine.next (lane (config oneSandbox)).serve
      (stateAt 12 (lateCommitted a b validator) [leaseID a] [leaseID a]
        [.startCheck (lease a validator 60), .answerTx (lease a validator 60) 12])
      (.run 1 (.tx .commits)) =
      stateAt 12 (lateCommitted a b validator) [leaseID a] [leaseID a]
        [.startCheck (lease a validator 60),
          .sign (.lease (lease a validator 60)) (overOutcome a b validator) 12] :=
    next_answerTx rfl (serve_answer ha hv)
  have hevents : fourthEvents = [.run 1 .next, .run 1 .next] ++ [.run 1 (.tx .commits)] := rfl
  rw [hevents, Machine.run_append, hread, Machine.run_cons, hanswer]
  rfl

/-- The lease and the second hold do not fit the budget together. -/
lemma overOutcome_exceeds :
    ((overOutcome a b validator).held.plus (overOutcome a b validator).active).within oneSandbox =
      false := rfl

/-- The receipt is not signed, for the capacity it reports. -/
lemma receipt_over (ha : hexDigit a = true) :
    (config oneSandbox).receipt (.lease (lease a validator 60)) (overOutcome a b validator) 12 =
      .error "receipt_capacity_invalid" := by
  have hcheck : ((config oneSandbox).unsigned (.lease (lease a validator 60)) (digest a)
      (overOutcome a b validator) 12).validateUnsigned wire = .error "receipt_capacity_invalid" :=
    SandboxReceiptV1.validateUnsigned_capacity rfl rfl (identity_valid ha) (digest_valid ha)
      (show Stage.accepted ∈ sandboxReceiptStages sandboxLeaseSchema by decide)
      ⟨rfl, Stage.noConfusion, Stage.noConfusion⟩ rfl rfl (leaseID_valid ha) rfl
  have hdigest : (config oneSandbox).digest (.lease (lease a validator 60)) = some (digest a) := rfl
  simp only [LaneConfig.receipt, hdigest]
  rw [show (config oneSandbox).wire = wire from rfl, hcheck]
  rfl

/-- The receipt of the lease, in a run that ends with it. -/
lemma staleRun_receipt (ha : hexDigit a = true) (hb : hexDigit b = true) (hv : validator ≠ "")
    (hne : a ≠ b) :
    .receipt (.lease (lease a validator 60)) (overOutcome a b validator)
        (.error "receipt_capacity_invalid") ∈
      Machine.trace (lane (config oneSandbox)).serve (Lane.init .empty) (staleRun a b validator) := by
  apply Machine.mem_trace_of_answer
  rw [Machine.run_append, Machine.run_append, Machine.run_append, run_first ha hv,
    run_second hb hv hne, run_third ha hv hne, run_fourth ha hv]
  rw [answer_sign rfl, receipt_over ha]
  exact List.mem_singleton.mpr rfl

/-- The clock does not go back in the run, and the receipt of the lease is not signed. -/
lemma staleRun_over (ha : hexDigit a = true) (hb : hexDigit b = true) (hv : validator ≠ "")
    (hne : a ≠ b) :
    ∃ events : List LaneEvent, (clocks events).Pairwise (· ≤ ·) ∧
      ∃ doc o, .receipt doc o (.error "receipt_capacity_invalid") ∈
          Machine.trace (lane (config oneSandbox)).serve (Lane.init .empty) events ∧
        (o.held.plus o.active).within (config oneSandbox).budget = false := by
  have hclocks : clocks (staleRun a b validator) = [1, 5, 12] := by
    simp [clocks, staleRun, firstEvents, secondEvents, thirdEvents, fourthEvents]
  refine ⟨staleRun a b validator, ?_, .lease (lease a validator 60), overOutcome a b validator,
    staleRun_receipt ha hb hv hne, overOutcome_exceeds⟩
  rw [hclocks]
  decide

/-- What is seen of the first reservation. -/
lemma trace_first (ha : hexDigit a = true) (hv : validator ≠ "") :
    Machine.trace (lane (config oneSandbox)).serve (Lane.init .empty) (firstEvents a validator) =
      [.tx (.hold (reservation a validator 10) 1),
        .receipt (.reservation (reservation a validator 10))
          (finish (firstHeld a validator) 1 { stage := .held }).1
          ((config oneSandbox).receipt (.reservation (reservation a validator 10))
            (finish (firstHeld a validator) 1 { stage := .held }).1 1)] := by
  have hheld : Machine.run (lane (config oneSandbox)).serve (Lane.init .empty)
      [.env 1, .arrive (.reserve (reservation a validator 10))] =
      stateAt 1 .empty [] [] [.request (.reservation (reservation a validator 10))
        (.hold (reservation a validator 10) 1)] := rfl
  have hhold : Machine.next (lane (config oneSandbox)).serve
      (stateAt 1 .empty [] [] [.request (.reservation (reservation a validator 10))
        (.hold (reservation a validator 10) 1)]) (.run 0 (.tx .commits)) =
      stateAt 1 (firstHeld a validator) [] [] [.sign (.reservation (reservation a validator 10))
        (finish (firstHeld a validator) 1 { stage := .held }).1 1] :=
    next_request rfl (serve_first ha hv)
  have hquiet : Machine.trace (lane (config oneSandbox)).serve (Lane.init .empty)
      [.env 1, .arrive (.reserve (reservation a validator 10))] = [] := rfl
  have hevents : firstEvents a validator =
      [.env 1, .arrive (.reserve (reservation a validator 10))] ++
        [.run 0 (.tx .commits), .run 0 .next] := rfl
  rw [hevents, Machine.trace_append, hquiet, hheld, List.nil_append, Machine.trace,
    answer_request rfl (serve_first ha hv), hhold, Machine.trace, answer_sign rfl, Machine.trace]
  rfl

/-- Nothing was admitted before the first hold is counted. -/
lemma timely_first (ha : hexDigit a = true) (hv : validator ≠ "") :
    TimelyRun (config oneSandbox)
      (Machine.trace (lane (config oneSandbox)).serve (Lane.init .empty) (firstEvents a validator)) := by
  rw [trace_first ha hv]
  intro before x after now heq hnow
  cases before with
  | nil =>
    intro t ht
    cases ht
  | cons y before =>
    rw [List.cons_append, List.cons.injEq] at heq
    cases before with
    | nil =>
      rw [List.nil_append, List.cons.injEq] at heq
      rw [← heq.2.1] at hnow
      cases hnow
    | cons z before =>
      rw [List.cons_append, List.cons.injEq] at heq
      simp at heq

end Sample

/-- The first reservation of a lane, which is timely, and its receipt. -/
theorem receipts_within_budget_one_hold :
    TimelyRun (Sample.config Sample.oneSandbox) (Machine.trace (lane (Sample.config Sample.oneSandbox)).serve
        (Lane.init .empty) (Sample.firstEvents 'a' "validator")) ∧
      ∀ doc o a, .receipt doc o a ∈ Machine.trace (lane (Sample.config Sample.oneSandbox)).serve
          (Lane.init .empty) (Sample.firstEvents 'a' "validator") →
        (o.held.plus o.active).within Sample.oneSandbox = true ∧
          o.held.within Sample.oneSandbox = true ∧ o.active.within Sample.oneSandbox = true ∧
          ∀ digest now,
            ((Sample.config Sample.oneSandbox).unsigned doc digest o now).fits = true := by
  have htimely : TimelyRun (Sample.config Sample.oneSandbox)
      (Machine.trace (lane (Sample.config Sample.oneSandbox)).serve (Lane.init .empty)
        (Sample.firstEvents 'a' "validator")) := Sample.timely_first (by decide) (by decide)
  exact ⟨htimely, receipts_within_budget (Sample.config Sample.oneSandbox) (by decide)
    (Sample.firstEvents 'a' "validator") htimely⟩

/-- **A commit that waited is not signed for.** With room for one sandbox, `Commit` reads the clock at
time 5 and waits; the hold of its lease expires at time 10 and `Reserve` admits the room again at time
12; `Commit` then commits at time 5. The lease and the new hold exceed the budget, and the receipt is
not signed. -/
theorem stale_commit_over_budget :
    ∃ events : List LaneEvent, (clocks events).Pairwise (· ≤ ·) ∧
      ∃ doc o, .receipt doc o (.error "receipt_capacity_invalid") ∈
          Machine.trace (lane (Sample.config Sample.oneSandbox)).serve (Lane.init .empty) events ∧
        (o.held.plus o.active).within (Sample.config Sample.oneSandbox).budget = false :=
  Sample.staleRun_over (show hexDigit 'a' = true by decide) (show hexDigit 'b' = true by decide)
    (show "validator" ≠ "" by decide) (by decide)

end Misscomputer.Miner
