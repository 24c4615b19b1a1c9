import Misscomputer.Durable.ExecTimes
import Misscomputer.Miner.OpsLane

set_option relaxedAutoImplicit false
set_option autoImplicit false

/-!
# What one step of the exec operations does

A step runs one transaction of the store, or changes the map of entries, or changes one entry, and it
does nothing else to what the processes share. Of an entry it changes who owns it and when it ended
only at the points that are there for it.

## Main definitions

* `Miner.OpsEffect` — what a step does to the shared state.
* `Miner.OpsLane.Later` — what no step takes back.

## Main results

* `Miner.opsStep_effect` — every step has one of these effects.
* `Miner.OpsEffect.later`, `Miner.env_later` — no step and no move of the surroundings takes it back.
-/

namespace Misscomputer.Miner

open Sandbox Protocol Durable Misscomputer.Runtime

variable {cfg : OpsConfig} {s s' : OpsLane} {p : OpsProc} {c : OpsChoice} {qs : List OpsProc}
  {obs : List OpsObservation}

/-! ## Effects -/

/-- What most updates of an entry leave alone: the exec it is for, its bounds, its owner, its end. -/
structure OpExec.Same (e e' : OpExec) : Prop where
  opID : e'.opID = e.opID
  instance' : e'.instance' = e.instance'
  timeout : e'.timeout = e.timeout
  maxOutput : e'.maxOutput = e.maxOutput
  admittedAt : e'.admittedAt = e.admittedAt
  endedAt : e'.endedAt = e.endedAt
  owned : e'.owned = e.owned

lemma OpExec.same_observe (e : OpExec) (o : ExecObservation) : e.Same (e.observe o) :=
  ⟨rfl, rfl, rfl, rfl, rfl, rfl, rfl⟩

/-- **What a step of the process `p` does to the shared state.** -/
inductive OpsEffect (cfg : OpsConfig) (s : OpsLane) (p : OpsProc) : OpsLane → Prop
  | same : OpsEffect cfg s p s
  | hold (x : ExecRef) (refused : Option (SandboxOpRequestV1 × SandboxOpReceiptV1))
      (at_drop : p = .drop x refused) (entry : s.execEntry x.opID = some x.ref) :
      OpsEffect cfg s p { s with mu := true }
  | tx (call : ℤ → OpsCall) (fate : Fate) (wall : ∀ t ∈ (call s.clock).wall, t = s.clock) :
      OpsEffect cfg s p (s.tx cfg call fate).1
  | join (r : SandboxOpRequestV1) (command : ExecCommand) (at_start : p = .start r command)
      (free : s.mu = false) : OpsEffect cfg s p (s.join r).1
  | delete (x : ExecRef) (refused : Option (SandboxOpRequestV1 × SandboxOpReceiptV1))
      (at_dropping : p = .dropping x refused) :
      OpsEffect cfg s p { s.delete x.opID with mu := false }
  | touch (ref : ℕ) (f : OpExec → OpExec) (same : ∀ e : OpExec, e.Same (f e)) :
      OpsEffect cfg s p (s.update ref f)
  | own (r : SandboxOpRequestV1) (command : ExecCommand) (ref : ℕ) (adm : SandboxOpAdmission)
      (e : OpExec) (at_launch : p = .launch r command ref adm) (entry : s.entries[ref]? = some e)
      (free : e.owned = false) :
      OpsEffect cfg s p (s.update ref (·.own (adm.admittedAt.getD 0)))
  | claim (x : ExecRef) (seen : SandboxExecLookup) (at_decide : p = .resolveDecide x seen) :
      OpsEffect cfg s p (s.update x.ref (·.claim (seen.admittedAt.getD 0) seen.decidedAt))
  | ended (x : ExecRef) (k : Recording) (at_markEnded : p = .markEnded x k) :
      OpsEffect cfg s p (s.update x.ref (·.markEnded s.clock))

lemma execStartStep_effect (h : OpsProc.startStep cfg s p c = some (s', qs, obs)) : OpsEffect cfg s p s' := by
  unfold OpsProc.startStep at h
  split at h
  case h_1 r command =>
    split at h <;> cases h
    exact .join r command rfl (by simp_all)
  case h_2 r command ref fate =>
    dsimp only at h
    split at h
    · split at h
      · cases h
        exact .tx _ fate (by simp [OpsCall.wall])
      split at h <;> cases h <;> exact .tx _ fate (by simp [OpsCall.wall])
    · cases h
      exact .tx _ fate (by simp [OpsCall.wall])
  case h_3 x =>
    split at h <;> cases h
    exact .same
  case h_4 x refused =>
    split at h
    · cases h
    split at h
    · cases h
    split at h
    · rename_i hentry
      cases h
      exact .hold x refused rfl hentry.1
    · cases h
      exact .same
  case h_5 x refused =>
    cases h
    exact .delete x refused rfl
  case h_6 r command ref adm =>
    split at h
    · cases h
    rename_i e he
    dsimp only at h
    split at h
    · cases h
      exact .same
    · cases h
      exact .own r command ref adm e rfl he (by simp_all)
  all_goals
    try dsimp only at h
    repeat' split at h
    all_goals first | (cases h; exact .same) | cases h

lemma lookupStep_effect (h : OpsProc.lookupStep cfg s p c = some (s', qs, obs)) :
    OpsEffect cfg s p s' := by
  unfold OpsProc.lookupStep at h
  split at h
  case h_1 r fate =>
    dsimp only at h
    split at h <;> cases h <;> exact .tx _ fate (by simp [OpsCall.wall])
  case h_2 r fate =>
    dsimp only at h
    repeat' split at h
    all_goals cases h; exact .tx _ fate (by simp [OpsCall.wall])
  case h_5 r seen x o bytes =>
    split at h
    · cases h
    dsimp only at h
    split at h <;> cases h <;> exact .touch x.ref _ fun e => e.same_observe o
  all_goals
    try dsimp only at h
    repeat' split at h
    all_goals first | (cases h; exact .same) | cases h

lemma answerStep_effect (h : OpsProc.answerStep cfg s p c = some (s', qs, obs)) :
    OpsEffect cfg s p s' := by
  unfold OpsProc.answerStep at h
  split at h
  case h_1 r execID result fate =>
    dsimp only at h
    repeat' split at h
    all_goals cases h; exact .tx _ fate (by simp [OpsCall.wall])
  all_goals
    try dsimp only at h
    repeat' split at h
    all_goals first | (cases h; exact .same) | cases h

lemma ownerStep_effect (h : OpsProc.ownerStep cfg s p c = some (s', qs, obs)) :
    OpsEffect cfg s p s' := by
  unfold OpsProc.ownerStep at h
  split at h
  case h_1 x command attempt fate =>
    dsimp only at h
    repeat' split at h
    all_goals cases h; exact .tx _ fate (by simp [OpsCall.wall])
  case h_4 x =>
    have heffect : OpsEffect cfg s (.ownerCalling x)
        ((OpsProc.startObservation c).elim s fun o => s.update x.ref (·.observe o)) := by
      cases OpsProc.startObservation c with
      | none => exact .same
      | some o => exact .touch x.ref _ fun e => e.same_observe o
    dsimp only at h
    split at h <;> cases h <;> exact heffect
  case h_6 x =>
    cases h
    exact .touch x.ref _ fun e => ⟨rfl, rfl, rfl, rfl, rfl, rfl, rfl⟩
  all_goals
    try dsimp only at h
    repeat' split at h
    all_goals first | (cases h; exact .same) | cases h

lemma recordStep_effect (h : OpsProc.recordStep cfg s p c = some (s', qs, obs)) :
    OpsEffect cfg s p s' := by
  unfold OpsProc.recordStep at h
  split at h
  case h_1 x state code attempt k fate =>
    dsimp only at h
    repeat' split at h
    all_goals cases h; exact .tx _ fate (by simp [OpsCall.wall])
  case h_2 x k =>
    cases h
    exact .ended x k rfl
  case h_3 => cases h

lemma timerStep_effect (h : OpsProc.timerStep cfg s p c = some (s', qs, obs)) :
    OpsEffect cfg s p s' := by
  unfold OpsProc.timerStep at h
  split at h
  case h_2 x attempt fate =>
    dsimp only at h
    repeat' split at h
    all_goals cases h; exact .tx _ fate (by simp [OpsCall.wall])
  case h_3 x seen =>
    dsimp only at h
    repeat' split at h
    all_goals first | (cases h; exact .same) | (cases h; exact .claim x seen rfl) | cases h
  case h_6 x attempt fate =>
    dsimp only at h
    repeat' split at h
    all_goals cases h; exact .tx _ fate (by simp [OpsCall.wall])
  all_goals
    try dsimp only at h
    repeat' split at h
    all_goals first | (cases h; exact .same) | cases h

lemma killStep_effect (h : OpsProc.killStep cfg s p c = some (s', qs, obs)) : OpsEffect cfg s p s' := by
  have hsame : ∀ e : OpExec, ∀ cancel kill trigger,
      e.Same { e with cancelPending := cancel, kill := kill, killTrigger := trigger } :=
    fun e _ _ _ => ⟨rfl, rfl, rfl, rfl, rfl, rfl, rfl⟩
  unfold OpsProc.killStep at h
  split at h
  case h_1 x trigger k =>
    split at h
    · cases h
    split at h <;> cases h
    · exact .touch x.ref _ fun e => hsame e _ _ _
    · exact .same
  case h_2 x trigger k =>
    split at h
    · cases h
    split at h <;> cases h
    exact .touch x.ref _ fun e => hsame e _ _ _
  case h_7 x trigger k =>
    cases h
    exact .touch x.ref _ fun e => hsame e _ _ _
  case h_8 x trigger k o code =>
    split at h <;> cases h
    exact .touch x.ref _ fun e => e.same_observe o
  case h_11 x rearm k =>
    cases h
    exact .touch x.ref _ fun e => hsame e _ _ _
  all_goals
    try dsimp only at h
    repeat' split at h
    all_goals
      first
        | (cases h; exact .same)
        | (cases h; exact .tx _ _ (by simp [OpsCall.wall]))
        | cases h

/-- **Every step has one of the effects.** -/
theorem opsStep_effect (h : OpsProc.step cfg s p c = some (s', qs, obs)) : OpsEffect cfg s p s' := by
  unfold OpsProc.step at h
  split at h
  all_goals
    first
      | exact execStartStep_effect h
      | exact lookupStep_effect h
      | exact answerStep_effect h
      | exact ownerStep_effect h
      | exact recordStep_effect h
      | exact timerStep_effect h
      | exact killStep_effect h

/-! ## What no step takes back -/

/-- What becomes of an entry: it stays the entry of its exec with its bounds, and an owner stays. -/
structure OpExec.Kept (e e' : OpExec) : Prop where
  opID : e'.opID = e.opID
  instance' : e'.instance' = e.instance'
  timeout : e'.timeout = e.timeout
  maxOutput : e'.maxOutput = e.maxOutput
  owned : e.owned = true → e'.owned = true ∧ e'.admittedAt = e.admittedAt

lemma OpExec.Kept.refl (e : OpExec) : e.Kept e := ⟨rfl, rfl, rfl, rfl, fun h => ⟨h, rfl⟩⟩

lemma OpExec.Same.kept {e e' : OpExec} (h : e.Same e') : e.Kept e' :=
  ⟨h.opID, h.instance', h.timeout, h.maxOutput, fun ho => ⟨h.owned.trans ho, h.admittedAt⟩⟩

lemma OpExec.kept_markEnded (e : OpExec) (now : ℤ) : e.Kept (e.markEnded now) := by
  unfold OpExec.markEnded
  split
  · exact ⟨rfl, rfl, rfl, rfl, fun h => ⟨h, rfl⟩⟩
  · exact .refl e

lemma OpExec.kept_claim (e : OpExec) (admittedAt decidedAt : ℤ) :
    e.Kept (e.claim admittedAt decidedAt) := by
  unfold OpExec.claim
  split
  · exact ⟨rfl, rfl, rfl, rfl, by simp_all⟩
  · exact .refl e

/-- **A later moment of a lane**: the clock is not before, a row that has ended is there, a row that was
written since carries a time from then on, and entries are kept. -/
structure OpsLane.Later (s s' : OpsLane) : Prop where
  clock : s.clock ≤ s'.clock
  ended : ∀ row ∈ s.store.execs, execTerminal row.state = true → row ∈ s'.store.execs
  rows : ∀ row ∈ s'.store.execs, row ∈ s.store.execs ∨ s.clock ≤ row.updatedAtNs
  ops : ∀ o ∈ s.store.ops, o ∈ s'.store.ops
  entries : ∀ {ref : ℕ} {e : OpExec}, s.entries[ref]? = some e →
    ∃ e', s'.entries[ref]? = some e' ∧ e.Kept e'

/-- A step that leaves the clock and the store alone, and keeps the entries. -/
lemma OpsLane.Later.of_entries (hclock : s'.clock = s.clock) (hstore : s'.store = s.store)
    (hentries : ∀ {ref : ℕ} {e : OpExec}, s.entries[ref]? = some e →
      ∃ e', s'.entries[ref]? = some e' ∧ e.Kept e') : s.Later s' :=
  ⟨hclock.ge, fun _ hrow _ => hstore ▸ hrow, fun _ hrow => .inl (hstore ▸ hrow),
    fun _ ho => hstore ▸ ho, hentries⟩

/-- An update of one entry that keeps it. -/
lemma OpsLane.Later.of_update {ref : ℕ} {f : OpExec → OpExec}
    (hf : ∀ e, s.entries[ref]? = some e → e.Kept (f e)) : s.Later (s.update ref f) := by
  refine .of_entries rfl rfl fun {i e} he => ?_
  by_cases hi : ref = i
  · subst hi
    exact ⟨f e, by simp [OpsLane.update, he], hf e he⟩
  · exact ⟨e, by simp [OpsLane.update, he, hi], .refl e⟩

/-- The tables after a transaction of the lane. -/
lemma OpsLane.tx_written (cfg : OpsConfig) (h : s.store.Current s.clock) (call : ℤ → OpsCall)
    (hwall : ∀ t ∈ (call s.clock).wall, t = s.clock) (fate : Fate) :
    s.store.Written s.clock (s.tx cfg call fate).1.store :=
  serveOps_written cfg.wire cfg.budget h hwall fate

lemma OpsLane.Later.of_tx (cfg : OpsConfig) (h : s.store.Current s.clock) (call : ℤ → OpsCall)
    (hwall : ∀ t ∈ (call s.clock).wall, t = s.clock) (fate : Fate) :
    s.Later (s.tx cfg call fate).1 := by
  have hw := OpsLane.tx_written cfg h call hwall fate
  refine ⟨le_rfl, hw.ended, fun row hrow => ?_, hw.ops, fun {ref e} he => ⟨e, he, .refl e⟩⟩
  rcases hw.rows row hrow with hrow | hrow
  · exact .inl hrow
  · exact .inr hrow.ge

/-- The new entry of a request is behind the entries that are there. -/
lemma OpsLane.join_entries (s : OpsLane) (r : SandboxOpRequestV1) {ref : ℕ} {e : OpExec}
    (he : s.entries[ref]? = some e) : (s.join r).1.entries[ref]? = some e := by
  unfold OpsLane.join
  split
  · exact he
  · obtain ⟨hlt, -⟩ := List.getElem?_eq_some_iff.mp he
    rw [← he]
    exact List.getElem?_append_left hlt

lemma OpsLane.join_store (s : OpsLane) (r : SandboxOpRequestV1) :
    (s.join r).1.store = s.store ∧ (s.join r).1.clock = s.clock := by
  unfold OpsLane.join
  split <;> exact ⟨rfl, rfl⟩

/-- **No step takes anything back.** -/
lemma OpsEffect.later (h : OpsEffect cfg s p s') (hs : s.store.Current s.clock) : s.Later s' := by
  cases h with
  | same => exact .of_entries rfl rfl fun he => ⟨_, he, .refl _⟩
  | hold x refused => exact .of_entries rfl rfl fun he => ⟨_, he, .refl _⟩
  | tx call fate wall => exact .of_tx cfg hs call wall fate
  | join r command =>
    exact .of_entries (s.join_store r).2 (s.join_store r).1 fun he => ⟨_, s.join_entries r he, .refl _⟩
  | delete x refused => exact .of_entries rfl rfl fun he => ⟨_, he, .refl _⟩
  | touch ref f same => exact .of_update fun e _ => (same e).kept
  | own r command ref adm e at_launch entry free =>
    refine .of_update fun e' he' => ⟨rfl, rfl, rfl, rfl, fun ho => ?_⟩
    rw [entry, Option.some.injEq] at he'
    rw [← he', free] at ho
    cases ho
  | claim x seen => exact .of_update fun e _ => e.kept_claim _ _
  | ended x k => exact .of_update fun e _ => e.kept_markEnded _

/-- The tables after a step hold no time after the clock. -/
lemma OpsEffect.current (h : OpsEffect cfg s p s') (hs : s.store.Current s.clock) :
    s'.store.Current s'.clock := by
  cases h with
  | tx call fate wall => exact (OpsLane.tx_written cfg hs call wall fate).current
  | join r command =>
    rw [(s.join_store r).1, (s.join_store r).2]
    exact hs
  | _ => exact hs

/-- What the surroundings do to a lane. -/
lemma env_later (cfg : OpsConfig) (e : OpsEnv) (hs : s.store.Current s.clock) :
    s.Later (cfg.env s e) ∧ (cfg.env s e).store.Current (cfg.env s e).clock ∧
      (cfg.env s e).entries = s.entries ∧ (cfg.env s e).execs = s.execs := by
  cases e with
  | clock now =>
    refine ⟨⟨le_max_left _ _, fun row hrow _ => hrow, fun row hrow => .inl hrow, fun o ho => ho,
      fun he => ⟨_, he, .refl _⟩⟩, hs.later (le_max_left _ _), rfl, rfl⟩
  | lease op =>
    have hwall : ∀ t ∈ (OpsCall.lease op).wall, t = s.clock := by simp [OpsCall.wall]
    exact ⟨.of_tx cfg hs (fun _ => .lease op) hwall .commits,
      (OpsLane.tx_written cfg hs (fun _ => .lease op) hwall .commits).current, rfl, rfl⟩
  | renewLease r =>
    have hwall : ∀ t ∈ (OpsCall.renewLease r s.clock).wall, t = s.clock := by simp [OpsCall.wall]
    exact ⟨.of_tx cfg hs (.renewLease r) hwall .commits,
      (OpsLane.tx_written cfg hs (.renewLease r) hwall .commits).current, rfl, rfl⟩

/-! ## The exec and the request of a process -/

/-- The request that a caller of the kill path answers, for an exec. -/
def KillCaller.answers (execID : String) : KillCaller → Option (SandboxOpRequestV1 × String)
  | .detached => none
  | .cancel r => some (r, execID)

/-- The request that a caller of `recordExec` answers, for an exec. -/
def Recording.answers (execID : String) : Recording → Option (SandboxOpRequestV1 × String)
  | .killing k => k.answers execID
  | .reading r _ _ => some (r, execID)
  | _ => none

/-- The exec that a process works on, with the entry it holds. -/
def OpsProc.ref : OpsProc → Option ExecRef
  | .startAdmit r _ ref | .launch r _ ref _ | .startStatus r ref _ => some ⟨sandboxOpIDV1 r, ref⟩
  | .startError x | .drop x _ | .dropping x _ | .reading _ _ x | .readStatus _ _ x _
  | .answerNow _ x _ _ | .answerStatus _ x _ _ _ | .owner x _ _ | .ownerDecide x _ _ _
  | .ownerCall x _ _ | .ownerCalling x | .ownerStarted x | .giveUp x | .record x _ _ _ _
  | .markEnded x _ | .resolve x | .resolveRead x _ | .resolveDecide x _ | .resolveEnd x | .deadline x
  | .deadlineRead x _ | .deadlineDecide x _ _ | .kill x _ _ | .killLock x _ _ | .killRead x _ _ _
  | .killDecide x _ _ _ _ | .killEnd x _ _ _ | .killReread x _ _ _ | .killSignal x _ _
  | .killing x _ _ | .killRecord x _ _ | .killUnlock x _ _ => some x
  | .start _ _ | .startNow _ _ _ | .sign _ _ | .refuseNow _ _ _ _ | .lookup _ | .lookupExec _
  | .cancel _ _ | .read _ _ | .answer _ _ _ | .answerEntry _ _ _ _ => none

/-- The request that a process will answer from the state of an exec, with that exec. -/
def OpsProc.answers : OpsProc → Option (SandboxOpRequestV1 × String)
  | .start r _ | .startAdmit r _ _ | .launch r _ _ _ | .startStatus r _ _ | .startNow r _ _ =>
    some (r, sandboxOpIDV1 r)
  | .lookup r | .lookupExec r | .cancel r _ | .read r _ => some (r, r.execID.getD "")
  | .answer r execID _ | .answerEntry r execID _ _ => some (r, execID)
  | .reading r _ x | .readStatus r _ x _ | .answerNow r x _ _ | .answerStatus r x _ _ _ =>
    some (r, x.opID)
  | .record x _ _ _ k | .markEnded x k => k.answers x.opID
  | .kill x _ k | .killLock x _ k | .killRead x _ _ k | .killDecide x _ _ _ k | .killEnd x _ _ k
  | .killReread x _ _ k | .killSignal x _ k | .killing x _ k | .killRecord x _ k | .killUnlock x _ k =>
    k.answers x.opID
  | _ => none

attribute [local simp] OpsProc.ref OpsProc.answers

/-- A process is on the exec of `p` and answers what `p` answers, or its exec is in the map. -/
def OpsProc.Follows (s : OpsLane) (p q : OpsProc) : Prop :=
  (∀ x ∈ q.ref, x ∈ p.ref ∨ s.execEntry x.opID = some x.ref ∨
    ∃ r command, p = .start r command ∧ x = ⟨sandboxOpIDV1 r, (s.join r).2⟩) ∧
  ∀ a ∈ q.answers, a ∈ p.answers

lemma signing_follows (s : OpsLane) (p : OpsProc) (r : SandboxOpRequestV1)
    (receipt : Option SandboxOpReceiptV1) : ∀ q ∈ OpsProc.signing r receipt, p.Follows s q := by
  cases receipt <;> simp [OpsProc.signing, OpsProc.Follows]

lemma refused_follows (s : OpsLane) (p : OpsProc)
    (refused : Option (SandboxOpRequestV1 × SandboxOpReceiptV1)) :
    ∀ q ∈ refused.elim [] fun a => [OpsProc.sign a.1 a.2], p.Follows s q := by
  cases refused <;> simp [OpsProc.Follows]

/-- The caller of `recordExec` goes on with its exec and its request. -/
lemma afterRecord_ref (x : ExecRef) (result : OpsProc.Recorded) (k : Recording) :
    ∀ q ∈ OpsProc.afterRecord x result k,
      q.ref = some x ∧ (q.answers = none ∨ q.answers = k.answers x.opID) := by
  cases k with
  | starting state =>
    cases result <;> simp only [OpsProc.afterRecord]
    · split <;> simp [Recording.answers]
    all_goals simp [Recording.answers]
  | _ => cases result <;> simp [OpsProc.afterRecord, Recording.answers]

lemma afterRecord_follows (s : OpsLane) {x : ExecRef} {k : Recording} (hx : p.ref = some x)
    (hk : p.answers = k.answers x.opID) (result : OpsProc.Recorded) :
    ∀ q ∈ OpsProc.afterRecord x result k, p.Follows s q := by
  intro q hq
  obtain ⟨href, hans⟩ := afterRecord_ref x result k q hq
  refine ⟨fun y hy => .inl ?_, fun a ha => ?_⟩
  · rw [hx, ← href]
    exact hy
  · rcases hans with hans | hans
    · rw [hans] at ha
      cases ha
    · rw [hk, ← hans]
      exact ha

lemma startStep_follows (h : OpsProc.startStep cfg s p c = some (s', qs, obs)) :
    ∀ q ∈ qs, p.Follows s q := by
  unfold OpsProc.startStep at h
  split at h
  all_goals
    try dsimp only at h
    repeat' split at h
    all_goals
      first
        | (cases h; exact signing_follows s _ _ _)
        | (cases h; exact refused_follows s _ _)
        | (cases h; simp [OpsProc.Follows])
        | cases h

lemma lookupStep_follows (h : OpsProc.lookupStep cfg s p c = some (s', qs, obs)) :
    ∀ q ∈ qs, p.Follows s q := by
  unfold OpsProc.lookupStep at h
  split at h
  all_goals
    try dsimp only at h
    repeat' split at h
    all_goals
      first
        | (cases h; exact signing_follows s _ _ _)
        | (cases h
           simp_all [OpsProc.Follows, KillCaller.answers,
             Recording.answers])
        | cases h

lemma answerStep_follows (h : OpsProc.answerStep cfg s p c = some (s', qs, obs)) :
    ∀ q ∈ qs, p.Follows s q := by
  unfold OpsProc.answerStep at h
  split at h
  all_goals
    try dsimp only at h
    repeat' split at h
    all_goals
      first
        | (cases h; exact signing_follows s _ _ _)
        | (cases h; simp_all [OpsProc.Follows])
        | cases h

lemma ownerStep_follows (h : OpsProc.ownerStep cfg s p c = some (s', qs, obs)) :
    ∀ q ∈ qs, p.Follows s q := by
  unfold OpsProc.ownerStep at h
  split at h
  all_goals
    try dsimp only at h
    repeat' split at h
    all_goals
      first
        | (cases h
           simp_all [OpsProc.Follows, KillCaller.answers,
             Recording.answers])
        | cases h

lemma recordStep_follows (h : OpsProc.recordStep cfg s p c = some (s', qs, obs)) :
    ∀ q ∈ qs, p.Follows s q := by
  unfold OpsProc.recordStep at h
  split at h
  all_goals
    try dsimp only at h
    repeat' split at h
    all_goals
      first
        | (cases h; exact afterRecord_follows s rfl rfl _)
        | (cases h; simp [OpsProc.Follows])
        | cases h

lemma timerStep_follows (h : OpsProc.timerStep cfg s p c = some (s', qs, obs)) :
    ∀ q ∈ qs, p.Follows s q := by
  unfold OpsProc.timerStep at h
  split at h
  all_goals
    try dsimp only at h
    repeat' split at h
    all_goals
      first
        | (cases h
           simp [OpsProc.Follows, KillCaller.answers,
             Recording.answers])
        | cases h

lemma killStep_follows (h : OpsProc.killStep cfg s p c = some (s', qs, obs)) :
    ∀ q ∈ qs, p.Follows s q := by
  unfold OpsProc.killStep at h
  split at h
  case h_11 x rearm k =>
    cases h
    cases k <;> cases rearm <;>
      simp [OpsProc.Follows, KillCaller.answers]
  all_goals
    try dsimp only at h
    repeat' split at h
    all_goals
      first
        | (cases h; simp [OpsProc.Follows, Recording.answers])
        | cases h

/-- **Every successor of a process follows it.** -/
theorem step_follows (h : OpsProc.step cfg s p c = some (s', qs, obs)) : ∀ q ∈ qs, p.Follows s q := by
  unfold OpsProc.step at h
  split at h
  all_goals
    first
      | exact startStep_follows h
      | exact lookupStep_follows h
      | exact answerStep_follows h
      | exact ownerStep_follows h
      | exact recordStep_follows h
      | exact timerStep_follows h
      | exact killStep_follows h

end Misscomputer.Miner
