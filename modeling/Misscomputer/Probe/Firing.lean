import Misscomputer.Contract.Timestamp
import Misscomputer.Lib.Dict
import Misscomputer.Probe.Plans
import Mathlib.Data.List.Induction

set_option relaxedAutoImplicit false
set_option autoImplicit false

/-!
# Firing a plan

A loop goes over a plan in its order: it reads the clock, sleeps until the instant of the probe where that
lies ahead, reads the clock again, and sends the probe unless a check says that it is too late. The clock may
step backward and a sleep may end at any time, so the readings are an arbitrary sequence.

## Main definitions

* `Probe.Rule` — what is a loop's own: the instant of a probe, its checks and how it sends.
* `Probe.Rule.run` — the loop.
* `Probe.fireSchedule`, `Probe.runStaticHiddenProbes` — the two loops of the code.
* `Probe.KeepsSchedule` — probes leave inside their epoch and in time, each at most once, and all others count
  as skipped.
* `Probe.WokenEarly` — a probe is judged on a reading before its epoch, and its request leaves.

## Main results

* `Probe.Rule.traced_run` — which probes a run sends, at which readings, and how many it skips.
* `Probe.fireSchedule_keeps` — every run of one loop keeps the schedule.
* `Probe.schedules_kept_iff` — the other keeps it exactly when no probe is woken early.

## Implementation notes

A reading is `int(clock() * 1_000)`. What is done with a probe once it is handed to the transport is a
parameter that may fail.

## References

* `src/misscomputer_subnet/assignment_probe_cli.py` (`_fire_schedule`)
* `src/misscomputer_subnet/static_crawl.py` (`run_static_hidden_probes`, `send_static_probe`)
-/

namespace Misscomputer

namespace Probe

open Contract (epochIndexOf)
open StaticIndex (AuthenticatedIndex)

/-! ## The loop -/

/-- `MAX_FIRE_DELAY_MILLIS`, one number in both modules. -/
def maxFireDelayMillis : ℤ := 10000

/-- `DEFAULT_EPOCH_SECONDS`. -/
def defaultEpochSeconds : ℤ := 300

/-- What became of a probe that was to be sent. -/
inductive Sending (ε O : Type)
  /-- It raised before the request left. -/
  | unsent (error : ε)
  /-- It raised after the request had left. -/
  | lost (error : ε)
  | answered (observation : O)

/-- The request left. -/
def Sending.left {ε O : Type} : Sending ε O → Bool
  | .unsent _ => false
  | .lost _ => true
  | .answered _ => true

/-- What is a firing loop's own. -/
structure Rule (P ε O : Type) where
  /-- The instant of a probe, in milliseconds. -/
  instant : P → Except ε ℤ
  /-- The checks before a send, of the instant and the last reading. -/
  refuses : ℤ → ℤ → Bool
  /-- The send at a reading. -/
  send : P → ℤ → Sending ε O

/-- Waiting for an instant: the last reading, how many were taken in all, and the sleeps. -/
structure Waking where
  now : ℤ
  reads : ℕ
  slept : List ℤ

/-- The clock is read, and read again after a sleep. -/
def wait (clock : ℕ → ℤ) (reads : ℕ) (fireAt : ℤ) : Waking :=
  if fireAt > clock reads then ⟨clock (reads + 1), reads + 2, [fireAt - clock reads]⟩
  else ⟨clock reads, reads + 1, []⟩

/-- Where a loop is: probes entered, readings taken, sleeps asked for, probes sent with their place and
reading, and what it will return or raise. -/
structure Progress (ε O : Type) where
  position : ℕ
  reads : ℕ
  slept : List ℤ
  sent : List (ℕ × ℤ)
  observations : List O
  skipped : ℕ
  raised : Option ε

namespace Progress

variable {ε O : Type}

/-- Before the first probe. -/
def start : Progress ε O := ⟨0, 0, [], [], [], 0, none⟩

/-- What the caller gets: the observations and the count of skipped probes. -/
def result (s : Progress ε O) : Except ε (List O × ℕ) :=
  match s.raised with
  | some e => .error e
  | none => .ok (s.observations, s.skipped)

end Progress

namespace Rule

variable {P ε O : Type}

/-- One round of the loop. -/
def advance (rule : Rule P ε O) (clock : ℕ → ℤ) (s : Progress ε O) (planned : P) : Progress ε O :=
  match s.raised with
  | some _ => s
  | none =>
    match rule.instant planned with
    | .error e => { s with raised := some e }
    | .ok fireAt =>
      let woken := wait clock s.reads fireAt
      let entered := { s with position := s.position + 1, reads := woken.reads, slept := s.slept ++ woken.slept }
      if rule.refuses fireAt woken.now then { entered with skipped := s.skipped + 1 }
      else
        match rule.send planned woken.now with
        | .unsent e => { entered with raised := some e }
        | .lost e => { entered with sent := s.sent ++ [(s.position, woken.now)], raised := some e }
        | .answered observation =>
          { entered with
            sent := s.sent ++ [(s.position, woken.now)]
            observations := s.observations ++ [observation] }

/-- The loop over a plan. -/
def run (rule : Rule P ε O) (clock : ℕ → ℤ) (plan : List P) : Progress ε O :=
  plan.foldl (rule.advance clock) .start

end Rule

/-! ## The two loops of the code -/

/-- `ScheduledProbe`: an instant, and what sends the probe at a reading. -/
abbrev ScheduledProbe (ε : Type) := ℤ × (ℤ → Except ε Unit)

/-- The rule of `_fire_schedule`. -/
def fireRule (ε : Type) (epochIndex : ℤ) : Rule (ScheduledProbe ε) ε Unit where
  instant planned := .ok planned.1
  refuses fireAt now :=
    now - fireAt > maxFireDelayMillis || now ≥ (epochIndex + 1) * defaultEpochSeconds * 1000 ||
      epochIndexOf (now / 1000) defaultEpochSeconds ≠ epochIndex
  send planned now :=
    match planned.2 now with
    | .error e => .lost e
    | .ok () => .answered ()

/-- `_fire_schedule`. -/
def fireSchedule {ε : Type} (clock : ℕ → ℤ) (epochIndex : ℤ) (schedule : List (ScheduledProbe ε)) :
    Progress ε Unit :=
  (fireRule ε epochIndex).run clock schedule

/-- What `run_static_hidden_probes` raises. -/
inductive RunError (ε : Type)
  /-- `ValueError`. -/
  | value (text : String)
  /-- `KeyError`. -/
  | key
  /-- What signing, the transport or the evaluation raises. -/
  | sending (error : ε)
deriving DecidableEq

/-- What `send_static_probe` is given to work with. -/
structure Sender (ε A R O : Type) where
  /-- `build_probe_authorization` and its header, at a whole second. -/
  authorize : PlannedStaticProbe → ℤ → Except ε A
  /-- `transport.fetch`. -/
  fetch : AuthenticatedIndex → PlannedStaticProbe → A → Except ε R
  /-- `evaluate_static_probe`. -/
  evaluate : AuthenticatedIndex → A → R → Except ε O

/-- `send_static_probe`. -/
def sendStaticProbe {ε A R O : Type} (sender : Sender ε A R O) (index : AuthenticatedIndex) (planned : PlannedStaticProbe)
    (issuedAtEpoch : ℤ) : Sending (RunError ε) O :=
  if planned.siteDigest ≠ index.target.siteDigest then .unsent (.value "planned_probe_site_mismatch")
  else
    match sender.authorize planned issuedAtEpoch with
    | .error e => .unsent (.sending e)
    | .ok authorization =>
      match sender.fetch index planned authorization with
      | .error e => .lost (.sending e)
      | .ok result =>
        match sender.evaluate index authorization result with
        | .error e => .lost (.sending e)
        | .ok observation => .answered observation

/-- The instant of a hidden probe. -/
def hiddenInstant {ε : Type} (planned : PlannedStaticProbe) : Except (RunError ε) ℤ :=
  if planned.probeKind = .hidden then
    match planned.fireAtMillis with
    | some fireAt => .ok fireAt
    | none => .error (.value "hidden_plan_invalid")
  else .error (.value "hidden_plan_invalid")

/-- The rule of `run_static_hidden_probes`. -/
def staticRule {ε A R O : Type} (sender : Sender ε A R O) (indexes : Dict String AuthenticatedIndex)
    (epochEndMillis : ℤ) : Rule PlannedStaticProbe (RunError ε) O where
  instant := hiddenInstant
  refuses fireAt now := now - fireAt > maxFireDelayMillis || now ≥ epochEndMillis
  send planned now :=
    match indexes.get planned.deploymentID with
    | none => .unsent .key
    | some index => sendStaticProbe sender index planned (now / 1000)

/-- `run_static_hidden_probes`. -/
def runStaticHiddenProbes {ε A R O : Type} (clock : ℕ → ℤ) (plan : List PlannedStaticProbe)
    (indexes : Dict String AuthenticatedIndex) (sender : Sender ε A R O) (epochEndMillis : ℤ) :
    Progress (RunError ε) O :=
  (staticRule sender indexes epochEndMillis).run clock plan

/-! ## What a run sends -/

namespace Rule

variable {P ε O : Type} {rule : Rule P ε O} {clock : ℕ → ℤ} {plan before after : List P} {p q : P} {s : Progress ε O}
  {i : ℕ} {now : ℤ}

section

variable (rule clock)

/-- The readings a plan takes. -/
def readsAfter (plan : List P) : ℕ :=
  plan.foldl (fun reads p => match rule.instant p with
    | .ok fireAt => (wait clock reads fireAt).reads
    | .error _ => reads) 0

/-- The reading on which the probe after some others is judged. -/
def decidedAt (before : List P) (fireAt : ℤ) : ℤ := (wait clock (rule.readsAfter clock before) fireAt).now

/-- The loop goes on behind a probe. -/
def Passes (before : List P) (p : P) : Prop :=
  ∃ fireAt, rule.instant p = .ok fireAt ∧ (rule.refuses fireAt (rule.decidedAt clock before fireAt) = true ∨
    ∃ o, rule.send p (rule.decidedAt clock before fireAt) = .answered o)

/-- The loop comes to the end of a plan. -/
def Completes (plan : List P) : Prop := ∀ before p after, plan = before ++ p :: after → rule.Passes clock before p

/-- The probe after some others is sent at a reading. -/
def Issues (before : List P) (p : P) (now : ℤ) : Prop :=
  ∃ fireAt, rule.instant p = .ok fireAt ∧ now = rule.decidedAt clock before fireAt ∧ rule.refuses fireAt now = false ∧
    (rule.send p now).left = true

/-- The probe at a place of the plan is sent at a reading. -/
def SentAt (plan : List P) (i : ℕ) (now : ℤ) : Prop :=
  ∃ before p after, plan = before ++ p :: after ∧ before.length = i ∧ rule.Completes clock before ∧
    rule.Issues clock before p now

end

/-- The places of a plan with one more probe. -/
lemma concat_eq_iff : plan ++ [p] = before ++ q :: after ↔
    (after = [] ∧ before = plan ∧ q = p) ∨ ∃ init, after = init ++ [p] ∧ plan = before ++ q :: init := by
  constructor
  · intro h
    rcases List.eq_nil_or_concat after with rfl | ⟨init, last, hafter⟩
    · obtain ⟨hplan, hlast⟩ := List.append_inj' h rfl
      exact Or.inl ⟨rfl, hplan.symm, (List.singleton_inj.mp hlast).symm⟩
    · have hassoc : plan ++ [p] = (before ++ q :: init) ++ [last] := by simp [h, hafter]
      obtain ⟨hplan, hlast⟩ := List.append_inj' hassoc rfl
      exact Or.inr ⟨init, by simp [hafter, List.singleton_inj.mp hlast], hplan⟩
  · rintro (⟨rfl, rfl, rfl⟩ | ⟨init, rfl, rfl⟩)
    · rfl
    · simp

lemma completes_nil : rule.Completes clock [] := by
  intro before p after h
  simp at h

lemma completes_concat : rule.Completes clock (plan ++ [p]) ↔ rule.Completes clock plan ∧ rule.Passes clock plan p := by
  constructor
  · intro h
    refine ⟨fun before q after hplan => ?_, h _ _ _ (concat_eq_iff.mpr (Or.inl ⟨rfl, rfl, rfl⟩))⟩
    exact h _ _ _ (concat_eq_iff.mpr (Or.inr ⟨after, rfl, hplan⟩))
  · rintro ⟨hplan, hp⟩ before q after h
    rcases concat_eq_iff.mp h with ⟨-, rfl, rfl⟩ | ⟨init, -, hinit⟩
    · exact hp
    · exact hplan _ _ _ hinit

lemma not_sentAt_nil : ¬ rule.SentAt clock [] i now := by
  rintro ⟨before, p, after, h, -⟩
  simp at h

lemma sentAt_concat : rule.SentAt clock (plan ++ [p]) i now ↔
    rule.SentAt clock plan i now ∨ i = plan.length ∧ rule.Completes clock plan ∧ rule.Issues clock plan p now := by
  constructor
  · rintro ⟨before, q, after, h, rfl, hcompletes, hissues⟩
    rcases concat_eq_iff.mp h with ⟨-, rfl, rfl⟩ | ⟨init, -, hinit⟩
    · exact Or.inr ⟨rfl, hcompletes, hissues⟩
    · exact Or.inl ⟨before, q, init, hinit, rfl, hcompletes, hissues⟩
  · rintro (⟨before, q, after, hplan, hlength, hrest⟩ | ⟨rfl, hrest⟩)
    · exact ⟨before, q, after ++ [p], concat_eq_iff.mpr (Or.inr ⟨after, rfl, hplan⟩), hlength, hrest⟩
    · exact ⟨plan, p, [], rfl, rfl, hrest⟩

lemma SentAt.lt (h : rule.SentAt clock plan i now) : i < plan.length := by
  obtain ⟨before, p, after, rfl, rfl, -⟩ := h
  simp

lemma readsAfter_concat : rule.readsAfter clock (plan ++ [p]) = (match rule.instant p with
    | .ok fireAt => (wait clock (rule.readsAfter clock plan) fireAt).reads
    | .error _ => rule.readsAfter clock plan) := by
  simp only [readsAfter, List.foldl_append, List.foldl_cons, List.foldl_nil]

/-- The places of a plan that were not sent. -/
def unsent (length : ℕ) (sent : List (ℕ × ℤ)) : List ℕ := (List.range length).filter fun i => i ∉ sent.map Prod.fst

/-- What is known of a loop that has been through a plan. -/
structure Traced (rule : Rule P ε O) (clock : ℕ → ℤ) (plan : List P) (s : Progress ε O) : Prop where
  completes : s.raised = none ↔ rule.Completes clock plan
  position : s.raised = none → s.position = plan.length
  reads : s.raised = none → s.reads = rule.readsAfter clock plan
  sent : ∀ i now, (i, now) ∈ s.sent ↔ rule.SentAt clock plan i now
  once : (s.sent.map Prod.fst).Nodup
  counted : s.raised = none → s.skipped = (unsent plan.length s.sent).length
  observed : s.raised = none → s.observations.length = s.sent.length
  slept : ∀ t ∈ s.slept, 0 < t

lemma traced_start : Traced rule clock [] .start where
  completes := ⟨fun _ => completes_nil, fun _ => rfl⟩
  position _ := rfl
  reads _ := rfl
  sent _ _ := ⟨fun h => absurd h List.not_mem_nil, fun h => absurd h not_sentAt_nil⟩
  once := List.nodup_nil
  counted _ := rfl
  observed _ := rfl
  slept _ h := absurd h List.not_mem_nil

lemma wait_slept (clock : ℕ → ℤ) (reads : ℕ) (fireAt : ℤ) : ∀ t ∈ (wait clock reads fireAt).slept, 0 < t := by
  intro t ht
  unfold wait at ht
  split at ht
  next hahead =>
    rw [List.mem_singleton.mp ht]
    omega
  next => exact absurd ht List.not_mem_nil

namespace Traced

variable (h : Traced rule clock plan s)

include h

/-- The places that were sent lie in the plan. -/
lemma notMem_sent : plan.length ∉ s.sent.map Prod.fst := by
  intro hmem
  obtain ⟨⟨i, now⟩, hsent, hi⟩ := List.mem_map.mp hmem
  have hlt := ((h.sent i now).mp hsent).lt
  have heq : i = plan.length := hi
  omega

lemma slept_append (reads : ℕ) (fireAt : ℤ) : ∀ t ∈ s.slept ++ (wait clock reads fireAt).slept, 0 < t := by
  intro t ht
  rcases List.mem_append.mp ht with ht | ht
  · exact h.slept t ht
  · exact wait_slept _ _ _ t ht

/-- A plan with one more probe, which was not sent. -/
lemma length_unsent_skip : (unsent (plan.length + 1) s.sent).length = (unsent plan.length s.sent).length + 1 := by
  have hlast : [plan.length].filter (fun i => i ∉ s.sent.map Prod.fst) = [plan.length] :=
    List.filter_eq_self.mpr fun i hi => by simpa [List.mem_singleton.mp hi] using h.notMem_sent
  rw [unsent, List.range_succ, List.filter_append, List.length_append, hlast, unsent]
  rfl

omit h in
/-- A plan with one more probe, which was sent. -/
lemma length_unsent_sent :
    (unsent (plan.length + 1) (s.sent ++ [(plan.length, now)])).length = (unsent plan.length s.sent).length := by
  have hlast : [plan.length].filter (fun i => i ∉ (s.sent ++ [(plan.length, now)]).map Prod.fst) = [] :=
    List.filter_eq_nil_iff.mpr fun i hi => by simp [List.mem_singleton.mp hi]
  rw [unsent, List.range_succ, List.filter_append, hlast, List.append_nil, unsent]
  congr 1
  apply List.filter_congr
  intro i hi
  have hne : i ≠ plan.length := Nat.ne_of_lt (List.mem_range.mp hi)
  simp [hne]

/-- A loop that has raised does nothing more. -/
lemma of_raised (hraised : s.raised ≠ none) : Traced rule clock (plan ++ [p]) s := by
  have hnot : ¬ rule.Completes clock plan := fun hc => hraised (h.completes.mpr hc)
  refine ⟨⟨fun hr => absurd hr hraised, fun hc => absurd (completes_concat.mp hc).1 hnot⟩, fun hr => absurd hr hraised,
    fun hr => absurd hr hraised, fun i now => ?_, h.once, fun hr => absurd hr hraised, fun hr => absurd hr hraised,
    h.slept⟩
  rw [h.sent, sentAt_concat]
  exact ⟨Or.inl, fun hs => hs.resolve_right fun ⟨_, hc, _⟩ => hnot hc⟩

variable {s' : Progress ε O}

/-- A round that sends nothing. -/
lemma of_unsent (hraised : s.raised = none) (hsent : s'.sent = s.sent) (hobserved : s'.observations = s.observations)
    (hissues : ∀ now, ¬ rule.Issues clock plan p now) (hpasses : s'.raised = none ↔ rule.Passes clock plan p)
    (hgoes : s'.raised = none → s'.position = s.position + 1 ∧ s'.reads = rule.readsAfter clock (plan ++ [p]) ∧
      s'.skipped = s.skipped + 1)
    (hslept : ∀ t ∈ s'.slept, 0 < t) : Traced rule clock (plan ++ [p]) s' := by
  have hcompletes := h.completes.mp hraised
  refine ⟨?_, fun hr => ?_, fun hr => (hgoes hr).2.1, fun i now => ?_, hsent ▸ h.once, fun hr => ?_, fun _ => ?_, hslept⟩
  · rw [completes_concat, hpasses]
    exact ⟨fun hp => ⟨hcompletes, hp⟩, And.right⟩
  · rw [(hgoes hr).1, h.position hraised, List.length_append, List.length_singleton]
  · rw [hsent, h.sent, sentAt_concat]
    exact ⟨Or.inl, fun hs => hs.resolve_right fun ⟨_, _, hi⟩ => hissues _ hi⟩
  · rw [(hgoes hr).2.2, h.counted hraised, List.length_append, List.length_singleton, hsent, h.length_unsent_skip]
  · rw [hsent, hobserved]
    exact h.observed hraised

/-- A round that sends its probe. -/
lemma of_sent (hraised : s.raised = none) (hsent : s'.sent = s.sent ++ [(s.position, now)])
    (hissues : ∀ later, rule.Issues clock plan p later ↔ later = now) (hpasses : s'.raised = none ↔ rule.Passes clock plan p)
    (hposition : s'.position = s.position + 1) (hreads : s'.reads = rule.readsAfter clock (plan ++ [p]))
    (hskipped : s'.skipped = s.skipped) (hobserved : s'.raised = none → s'.observations.length = s.observations.length + 1)
    (hslept : ∀ t ∈ s'.slept, 0 < t) : Traced rule clock (plan ++ [p]) s' := by
  have hcompletes := h.completes.mp hraised
  rw [h.position hraised] at hsent
  refine ⟨?_, fun _ => ?_, fun _ => hreads, fun i later => ?_, ?_, fun _ => ?_, fun hr => ?_, hslept⟩
  · rw [completes_concat, hpasses]
    exact ⟨fun hp => ⟨hcompletes, hp⟩, And.right⟩
  · rw [hposition, h.position hraised, List.length_append, List.length_singleton]
  · rw [hsent, List.mem_append, h.sent, sentAt_concat, List.mem_singleton, Prod.mk.injEq, hissues]
    exact or_congr_right ⟨fun ⟨hi, hn⟩ => ⟨hi, hcompletes, hn⟩, fun ⟨hi, _, hn⟩ => ⟨hi, hn⟩⟩
  · rw [hsent, List.map_append, List.map_singleton]
    exact List.nodup_append.mpr ⟨h.once, List.nodup_singleton _, fun a ha b hb => by
      rintro rfl
      rw [List.mem_singleton.mp hb] at ha
      exact h.notMem_sent ha⟩
  · rw [hskipped, h.counted hraised, List.length_append, List.length_singleton, hsent, length_unsent_sent]
  · rw [hobserved hr, h.observed hraised, hsent, List.length_append, List.length_singleton]

/-- One round keeps what is known of a loop. The cases are those of the round: the plan entry is refused, the
probe is too late, or it is sent and one of three things comes of it. -/
theorem advance : Traced rule clock (plan ++ [p]) (rule.advance clock s p) := by
  cases hraised : s.raised with
  | some e =>
    have hsame : rule.advance clock s p = s := by simp only [Rule.advance, hraised]
    rw [hsame]
    exact h.of_raised (by simp [hraised])
  | none =>
    cases hinstant : rule.instant p with
    | error e =>
      have hnew : rule.advance clock s p = { s with raised := some e } := by simp only [Rule.advance, hraised, hinstant]
      rw [hnew]
      refine h.of_unsent hraised rfl rfl ?_ ⟨fun hr => (by cases hr), ?_⟩ (fun hr => by cases hr) h.slept
      · rintro now ⟨fireAt, hok, -⟩
        rw [hinstant] at hok
        cases hok
      · rintro ⟨fireAt, hok, -⟩
        rw [hinstant] at hok
        cases hok
    | ok fireAt =>
      have hreads : (wait clock s.reads fireAt).reads = rule.readsAfter clock (plan ++ [p]) := by
        rw [readsAfter_concat, hinstant, h.reads hraised]
      have hnow : (wait clock s.reads fireAt).now = rule.decidedAt clock plan fireAt := by
        rw [decidedAt, h.reads hraised]
      have hpasses : rule.Passes clock plan p ↔ rule.refuses fireAt (wait clock s.reads fireAt).now = true ∨
          ∃ o, rule.send p (wait clock s.reads fireAt).now = .answered o := by
        simp only [Passes, hinstant, Except.ok.injEq, exists_eq_left', hnow]
      have hissues : ∀ later, rule.Issues clock plan p later ↔ later = (wait clock s.reads fireAt).now ∧
          rule.refuses fireAt later = false ∧ (rule.send p later).left = true := by
        simp only [Issues, hinstant, Except.ok.injEq, exists_eq_left', hnow, implies_true]
      have hslept := h.slept_append s.reads fireAt
      cases hrefuses : rule.refuses fireAt (wait clock s.reads fireAt).now with
      | true =>
        have hnew : rule.advance clock s p =
            { s with
              position := s.position + 1
              reads := (wait clock s.reads fireAt).reads
              slept := s.slept ++ (wait clock s.reads fireAt).slept
              skipped := s.skipped + 1 } := by
          simp only [Rule.advance, hraised, hinstant, hrefuses, if_true]
        rw [hnew]
        refine h.of_unsent hraised rfl rfl ?_ ⟨fun _ => hpasses.mpr (Or.inl hrefuses), fun _ => hraised⟩
          (fun _ => ⟨rfl, hreads, rfl⟩) hslept
        intro now hi
        obtain ⟨rfl, hno, -⟩ := (hissues now).mp hi
        rw [hrefuses] at hno
        cases hno
      | false =>
        -- the probe is due
        have hleft : ∀ later, rule.Issues clock plan p later ↔ later = (wait clock s.reads fireAt).now ∧
            (rule.send p (wait clock s.reads fireAt).now).left = true := by
          intro later
          rw [hissues]
          constructor
          · rintro ⟨rfl, -, hl⟩
            exact ⟨rfl, hl⟩
          · rintro ⟨rfl, hl⟩
            exact ⟨rfl, hrefuses, hl⟩
        cases hsend : rule.send p (wait clock s.reads fireAt).now with
        | unsent e =>
          have hnew : rule.advance clock s p =
              { s with
                position := s.position + 1
                reads := (wait clock s.reads fireAt).reads
                slept := s.slept ++ (wait clock s.reads fireAt).slept
                raised := some e } := by
            simp only [Rule.advance, hraised, hinstant, hrefuses, hsend, Bool.false_eq_true, if_false]
          rw [hnew]
          refine h.of_unsent hraised rfl rfl (fun later hi => ?_) ⟨fun hr => (by cases hr), fun hp => ?_⟩
            (fun hr => by cases hr) hslept
          · obtain ⟨-, hl⟩ := (hleft later).mp hi
            rw [hsend] at hl
            cases hl
          · rcases hpasses.mp hp with hr | ⟨o, ho⟩
            · rw [hrefuses] at hr
              cases hr
            · rw [hsend] at ho
              cases ho
        | lost e =>
          have hnew : rule.advance clock s p =
              { s with
                position := s.position + 1
                reads := (wait clock s.reads fireAt).reads
                slept := s.slept ++ (wait clock s.reads fireAt).slept
                sent := s.sent ++ [(s.position, (wait clock s.reads fireAt).now)]
                raised := some e } := by
            simp only [Rule.advance, hraised, hinstant, hrefuses, hsend, Bool.false_eq_true, if_false]
          rw [hnew]
          refine h.of_sent hraised rfl (fun later => ?_) ⟨fun hr => (by cases hr), fun hp => ?_⟩ rfl hreads rfl
            (fun hr => by cases hr) hslept
          · rw [hleft, hsend]
            exact and_iff_left rfl
          · rcases hpasses.mp hp with hr | ⟨o, ho⟩
            · rw [hrefuses] at hr
              cases hr
            · rw [hsend] at ho
              cases ho
        | answered o =>
          have hnew : rule.advance clock s p =
              { s with
                position := s.position + 1
                reads := (wait clock s.reads fireAt).reads
                slept := s.slept ++ (wait clock s.reads fireAt).slept
                sent := s.sent ++ [(s.position, (wait clock s.reads fireAt).now)]
                observations := s.observations ++ [o] } := by
            simp only [Rule.advance, hraised, hinstant, hrefuses, hsend, Bool.false_eq_true, if_false]
          rw [hnew]
          refine h.of_sent hraised rfl (fun later => ?_) ⟨fun _ => hpasses.mpr (Or.inr ⟨o, hsend⟩), fun _ => hraised⟩ rfl
            hreads rfl (fun _ => by simp) hslept
          rw [hleft, hsend]
          exact and_iff_left rfl

end Traced

/-- **What a run sends**: exactly the probes that are reached and neither refused nor stopped before they
leave, each at the reading it is judged on; and a run that comes to its end counts all others as skipped.

**Proof sketch.** Induction on the plan from its end, with `Traced.advance` for the last probe. -/
theorem traced_run (rule : Rule P ε O) (clock : ℕ → ℤ) (plan : List P) : Traced rule clock plan (rule.run clock plan) := by
  induction plan using List.reverseRecOn with
  | nil => exact traced_start
  | append_singleton plan p ih =>
    rw [run, List.foldl_append]
    exact ih.advance

namespace Traced

variable {g : P → Option ℤ}

/-- A probe that is sent is not late. -/
lemma inTime (h : Traced rule clock plan s) (hrule : ∀ fireAt now, rule.refuses fireAt now = false →
    now - fireAt ≤ maxFireDelayMillis) (hinstant : ∀ p fireAt, rule.instant p = .ok fireAt → g p = some fireAt) :
    ∀ e ∈ s.sent, ∃ fireAt, (plan.map g)[e.1]? = some (some fireAt) ∧ e.2 - fireAt ≤ maxFireDelayMillis := by
  rintro ⟨i, now⟩ he
  obtain ⟨before, p, after, rfl, rfl, -, fireAt, hok, -, hrefuses, -⟩ := (h.sent i now).mp he
  refine ⟨fireAt, ?_, hrule _ _ hrefuses⟩
  simp [hinstant p fireAt hok]

/-- A loop that returns has counted the probes it did not send. -/
lemma counted_of_result (h : Traced rule clock plan s) {observations : List O} {skipped : ℕ}
    (hresult : s.result = .ok (observations, skipped)) : skipped = (unsent plan.length s.sent).length := by
  unfold Progress.result at hresult
  split at hresult
  next => cases hresult
  next hraised =>
    obtain ⟨-, rfl⟩ := Prod.mk.inj (Except.ok.inj hresult)
    exact h.counted hraised

end Traced

end Rule

/-! ## Keeping to the schedule -/

/-- The first millisecond of an epoch. -/
def epochStartMillis (epochIndex : ℤ) : ℤ := epochIndex * defaultEpochSeconds * 1000

/-- The end of an epoch. -/
def epochEndMillis (epochIndex : ℤ) : ℤ := (epochIndex + 1) * defaultEpochSeconds * 1000

/-- An instant of an epoch. -/
def InEpoch (epochIndex millis : ℤ) : Prop := epochStartMillis epochIndex ≤ millis ∧ millis < epochEndMillis epochIndex

instance (epochIndex millis : ℤ) : Decidable (InEpoch epochIndex millis) := inferInstanceAs (Decidable (_ ∧ _))

/-- The whole second of an instant lies in the epoch. -/
lemma epochIndexOf_eq_iff {epochIndex now : ℤ} :
    epochIndexOf (now / 1000) defaultEpochSeconds = epochIndex ↔ InEpoch epochIndex now := by
  simp only [epochIndexOf, InEpoch, epochStartMillis, epochEndMillis, defaultEpochSeconds]
  omega

/-- What is promised of a loop over probes with these instants: every probe it sends is issued at a whole
second of the epoch and not too late, no place of the plan twice, and where it returns, the count is that of
the places that were not sent. -/
structure KeepsSchedule {ε O : Type} (epochIndex : ℤ) (instants : List (Option ℤ)) (s : Progress ε O) : Prop where
  inEpoch : ∀ e ∈ s.sent, epochIndexOf (e.2 / 1000) defaultEpochSeconds = epochIndex
  inTime : ∀ e ∈ s.sent, ∃ fireAt, instants[e.1]? = some (some fireAt) ∧ e.2 - fireAt ≤ maxFireDelayMillis
  once : (s.sent.map Prod.fst).Nodup
  counted : ∀ observations skipped, s.result = .ok (observations, skipped) →
    skipped = (Rule.unsent instants.length s.sent).length

/-- What keeps the promise but perhaps for the epoch. -/
lemma keepsSchedule_iff {P ε O : Type} {rule : Rule P ε O} {clock : ℕ → ℤ} {plan : List P} {epochIndex : ℤ}
    {g : P → Option ℤ} (hrule : ∀ fireAt now, rule.refuses fireAt now = false → now - fireAt ≤ maxFireDelayMillis)
    (hinstant : ∀ p fireAt, rule.instant p = .ok fireAt → g p = some fireAt) :
    KeepsSchedule epochIndex (plan.map g) (rule.run clock plan) ↔
      ∀ i now, rule.SentAt clock plan i now → InEpoch epochIndex now := by
  have h := Rule.traced_run rule clock plan
  constructor
  · intro hkeeps i now hsent
    exact epochIndexOf_eq_iff.mp (hkeeps.inEpoch (i, now) ((h.sent i now).mpr hsent))
  · intro hepoch
    refine ⟨?_, h.inTime hrule hinstant, h.once, ?_⟩
    · rintro ⟨i, now⟩ he
      exact epochIndexOf_eq_iff.mpr (hepoch i now ((h.sent i now).mp he))
    · intro observations skipped hresult
      rw [List.length_map]
      exact h.counted_of_result hresult

/-- The loop of the command line keeps to the schedule, whatever the clock reads. -/
theorem fireSchedule_keeps {ε : Type} (clock : ℕ → ℤ) (epochIndex : ℤ) (schedule : List (ScheduledProbe ε)) :
    KeepsSchedule epochIndex (schedule.map fun planned => some planned.1) (fireSchedule clock epochIndex schedule) := by
  refine (keepsSchedule_iff (fun fireAt now h => ?_) fun p fireAt h => ?_).mpr ?_
  · simp only [fireRule, Bool.or_eq_false_iff, decide_eq_false_iff_not] at h
    omega
  · rw [Except.ok.inj h]
  · rintro i now ⟨before, p, after, -, -, -, fireAt, -, -, hrefuses, -⟩
    -- the third check is the one of the epoch
    simp only [fireRule, Bool.or_eq_false_iff, decide_eq_false_iff_not, not_not] at hrefuses
    exact epochIndexOf_eq_iff.mp hrefuses.2

/-- A probe that the loop reaches, and whose request leaves, is judged on a reading before the epoch: the clock
stepped back, or the sleep ended early. -/
def WokenEarly {P ε O : Type} (rule : Rule P ε O) (clock : ℕ → ℤ) (epochIndex : ℤ) (plan : List P) : Prop :=
  ∃ before p after fireAt, plan = before ++ p :: after ∧ rule.Completes clock before ∧ rule.instant p = .ok fireAt ∧
    rule.decidedAt clock before fireAt < epochStartMillis epochIndex ∧
    (rule.send p (rule.decidedAt clock before fireAt)).left = true

section Static

variable {ε A R O : Type}

lemma hiddenInstant_eq_ok {planned : PlannedStaticProbe} {fireAt : ℤ} :
    hiddenInstant (ε := ε) planned = .ok fireAt ↔ planned.probeKind = .hidden ∧ planned.fireAtMillis = some fireAt := by
  unfold hiddenInstant
  by_cases hkind : planned.probeKind = .hidden
  · cases hfire : planned.fireAtMillis <;> simp [hkind]
  · simp [hkind]

lemma staticRule_refuses {sender : Sender ε A R O} {indexes : Dict String AuthenticatedIndex} {epochEnd fireAt now : ℤ} :
    (staticRule sender indexes epochEnd).refuses fireAt now = false ↔
      now - fireAt ≤ maxFireDelayMillis ∧ now < epochEnd := by
  simp only [staticRule, Bool.or_eq_false_iff, decide_eq_false_iff_not]
  omega

/-- **The two loops**: the one of the command line keeps every probe inside its epoch; the one of the crawl
module, which has no check of the epoch's start, does so exactly when no probe is woken early. -/
theorem schedules_kept_iff {ε' : Type} (clock clock' : ℕ → ℤ) (epochIndex : ℤ) (schedule : List (ScheduledProbe ε'))
    (plan : List PlannedStaticProbe) (indexes : Dict String AuthenticatedIndex) (sender : Sender ε A R O)
    (hplan : ∀ planned ∈ plan, ∀ fireAt ∈ planned.fireAtMillis, InEpoch epochIndex fireAt) :
    KeepsSchedule epochIndex (schedule.map fun planned => some planned.1) (fireSchedule clock epochIndex schedule) ∧
      (KeepsSchedule epochIndex (plan.map PlannedStaticProbe.fireAtMillis)
          (runStaticHiddenProbes clock' plan indexes sender (epochEndMillis epochIndex)) ↔
        ¬ WokenEarly (staticRule sender indexes (epochEndMillis epochIndex)) clock' epochIndex plan) := by
  refine ⟨fireSchedule_keeps clock epochIndex schedule, ?_⟩
  rw [runStaticHiddenProbes, keepsSchedule_iff]
  · constructor
    · rintro hepoch ⟨before, p, after, fireAt, hsplit, hcompletes, hok, hearly, hleft⟩
      -- a reading before the epoch is before the instant, so that neither check refuses it
      have hmem : p ∈ plan := by simp [hsplit]
      have hfire := hplan p hmem fireAt (hiddenInstant_eq_ok.mp hok).2
      have hrefuses : (staticRule sender indexes (epochEndMillis epochIndex)).refuses fireAt
          (Rule.decidedAt (staticRule sender indexes (epochEndMillis epochIndex)) clock' before fireAt) = false := by
        rw [staticRule_refuses, maxFireDelayMillis]
        obtain ⟨hstart, hend⟩ := hfire
        omega
      have hin := hepoch before.length _ ⟨before, p, after, hsplit, rfl, hcompletes, fireAt, hok, rfl, hrefuses, hleft⟩
      exact absurd hin.1 (by omega)
    · rintro hnot i now ⟨before, p, after, hsplit, rfl, hcompletes, fireAt, hok, rfl, hrefuses, hleft⟩
      refine ⟨?_, (staticRule_refuses.mp hrefuses).2⟩
      by_contra hearly
      exact hnot ⟨before, p, after, fireAt, hsplit, hcompletes, hok, by omega, hleft⟩
  · exact fun fireAt now h => (staticRule_refuses.mp h).1
  · exact fun p fireAt h => (hiddenInstant_eq_ok.mp h).2

end Static

namespace Sample

/-- The deployment of a site. -/
def target : StaticIndex.StaticDeploymentTarget where
  deploymentID := "deployment"
  routeHost := "deployment.example.com"
  siteDigest := "sha256:" ++ String.ofList (List.replicate 64 'a')
  releaseDigest := "sha256:" ++ String.ofList (List.replicate 64 'b')
  serverImplementationDigest := "sha256:" ++ String.ofList (List.replicate 64 'c')
  endpoints :=
    [{ endpointID := "endpoint"
       generation := 1
       minerUID := 7
       minerHotkey := "miner"
       minerServicePublicKey := String.ofList (List.replicate 64 'd')
       ticketDigest := "sha256:" ++ String.ofList (List.replicate 64 'e') }]

/-- The index of a site of one document. -/
def index : AuthenticatedIndex where
  toVerifiedStaticIndex := StaticIndex.verified Static.oneFileSite
  target := target
  trustPolicyDigestSha256 := String.ofList (List.replicate 64 'f')

/-- A probe planned for the first millisecond of the epoch 1. -/
def probe : PlannedStaticProbe where
  probeKind := .hidden
  deploymentID := "deployment"
  siteDigest := target.siteDigest
  endpointID := "endpoint"
  generation := 1
  method := .get
  path := "/"
  expectedKind := .directoryIndex
  expectedContentLength := 5
  probeIndex := 0
  fireAtMillis := some 300000
  nonce := String.ofList (List.replicate 64 '0')

/-- A transport that answers, so that an observation is the second it was issued at. -/
def sender : Sender Unit ℤ Unit ℤ where
  authorize _ issuedAtEpoch := .ok issuedAtEpoch
  fetch _ _ _ := .ok ()
  evaluate _ authorization _ := .ok authorization

/-- The clock is one second early and steps back during the sleep. -/
def steppingClock : ℕ → ℤ
  | 0 => 299000
  | _ => 298500

lemma probe_inEpoch : ∀ planned ∈ [probe], ∀ fireAt ∈ planned.fireAtMillis, InEpoch 1 fireAt := by decide

end Sample

/-- The schedules of one probe, on a clock that steps back. -/
theorem schedules_kept_sample :
    KeepsSchedule 1 [some 300000] (fireSchedule Sample.steppingClock 1 [(300000, fun _ => (.ok () : Except Unit Unit))]) ∧
      (KeepsSchedule 1 ([Sample.probe].map PlannedStaticProbe.fireAtMillis)
          (runStaticHiddenProbes Sample.steppingClock [Sample.probe] [("deployment", Sample.index)] Sample.sender
            (epochEndMillis 1)) ↔
        ¬ WokenEarly (staticRule Sample.sender [("deployment", Sample.index)] (epochEndMillis 1)) Sample.steppingClock 1
            [Sample.probe]) :=
  schedules_kept_iff Sample.steppingClock Sample.steppingClock 1 [(300000, fun _ => .ok ())] [Sample.probe]
    [("deployment", Sample.index)] Sample.sender Sample.probe_inEpoch

/-- The probe of the epoch 1 is issued at the second 298, in the epoch 0. -/
theorem static_probe_sent_early :
    (∀ planned ∈ [Sample.probe], ∀ fireAt ∈ planned.fireAtMillis, InEpoch 1 fireAt) ∧
      (runStaticHiddenProbes Sample.steppingClock [Sample.probe] [("deployment", Sample.index)] Sample.sender
        (epochEndMillis 1)).sent = [(0, 298500)] ∧
      ¬ KeepsSchedule 1 ([Sample.probe].map PlannedStaticProbe.fireAtMillis)
        (runStaticHiddenProbes Sample.steppingClock [Sample.probe] [("deployment", Sample.index)] Sample.sender
          (epochEndMillis 1)) := by
  have hsent : (runStaticHiddenProbes Sample.steppingClock [Sample.probe] [("deployment", Sample.index)] Sample.sender
      (epochEndMillis 1)).sent = [(0, 298500)] := by rfl
  refine ⟨Sample.probe_inEpoch, hsent, fun hkeeps => ?_⟩
  have hepoch := hkeeps.inEpoch (0, 298500) (by rw [hsent]; exact List.mem_singleton_self _)
  exact absurd hepoch (by decide)

end Probe

end Misscomputer
