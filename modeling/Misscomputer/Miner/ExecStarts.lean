import Misscomputer.Miner.ExecReceipts

set_option relaxedAutoImplicit false
set_option autoImplicit false

/-!
# The one start of an exec

The entry of an exec is made before its admission, by the first request with its op ID, and every other
request with that ID joins it. The one that is admitted may be another one, and it hands the exec to a
start owner with its own command but with the bounds of the entry. The entry of a request that is
refused is taken out of the map while another request may hold it.

## Main definitions

* `Miner.HandedOver` — at `launchStart` the entry has the bounds of the request and is the one in the map,
  and no entry is taken out of the map that has an owner.
* `Miner.OpsObservation.Admitted` — a helper call carries the document that the store recorded.

## Main results

* `Miner.exec_starts_once` — where entries are handed over so, every helper call carries the admitted
  document, and there is at most one for an op ID.
* `Miner.start_with_other_bounds` — a run in which a call carries the bounds of another document.

## References

* `pkg/miner/sandbox_ops.go`, `pkg/durable/sandbox_ops_v1.go`
-/

namespace Misscomputer.Miner

open Sandbox Protocol Durable Misscomputer.Runtime

variable {cfg : OpsConfig} {R : OpsRequest → Prop} {s s' : OpsLane} {p : OpsProc} {c : OpsChoice}
  {qs : List OpsProc} {obs observed : List OpsObservation}

/-! ## The condition -/

/-- The bounds of an entry are those of a request. -/
def OpExec.BoundsOf (e : OpExec) (r : SandboxOpRequestV1) : Prop :=
  e.timeout = r.timeoutMS.getD 0 * millisecond ∧ e.maxOutput = r.maxOutputBytes.getD 0

/-- Where `launchStart` takes an entry that has no owner, the entry has the bounds of the request and is
the one in the map; where an entry is taken out of the map, it has no owner. -/
def HandedOver (s : OpsLane) (p : OpsProc) (_ : OpsChoice) : Prop :=
  match p with
  | .launch r _ ref _ => ∀ e, s.entries[ref]? = some e → e.owned = false →
    e.BoundsOf r ∧ s.execEntry (sandboxOpIDV1 r) = some ref
  | .dropping x _ => ∀ ref e, s.execEntry x.opID = some ref → s.entries[ref]? = some e →
    e.owned = false
  | _ => True

/-! ## The documents -/

/-- A request was received with a payload that decodes to the command. -/
structure Received (cfg : OpsConfig) (R : OpsRequest → Prop) (q : OpsRequest) (command : ExecCommand) :
    Prop where
  received : R q
  exec_start : q.request.op = .execStart
  payload : payloadMatches cfg.wire q.request q.payload = true
  command : cfg.decodeExecCommand q.payload = some command

/-- The store recorded the digest of a request under its op ID. -/
def OpsLane.Records (s : OpsLane) (cfg : OpsConfig) (r : SandboxOpRequestV1) (o : OpRow) : Prop :=
  o ∈ s.store.ops ∧ o.opID = sandboxOpIDV1 r ∧ cfg.wire.opDigest r = some o.documentDigest

/-- What a helper call carries: the command, the output bound and a timeout of the document that the
store recorded for its op ID. -/
def OpsObservation.Admitted (cfg : OpsConfig) (R : OpsRequest → Prop) (s : OpsLane) :
    OpsObservation → Prop
  | .receipt _ _ => True
  | .exec call => ∃ q o, Received cfg R q call.command ∧ s.Records cfg q.request o ∧
    call.execID = o.opID ∧ call.maxOutputBytes = q.request.maxOutputBytes.getD 0 ∧
    ∃ decidedAt : ℤ, call.timeoutMS =
      (max ((o.admittedAtNs + q.request.timeoutMS.getD 0 * millisecond - decidedAt).tdiv millisecond)
        1).toNat

/-- A start owner holds an entry with the bounds of the document that the store recorded. -/
def OpsLane.Carries (s : OpsLane) (cfg : OpsConfig) (R : OpsRequest → Prop) (x : ExecRef)
    (command : ExecCommand) : Prop :=
  ∃ e q o, s.entries[x.ref]? = some e ∧ e.owned = true ∧ Received cfg R q command ∧
    s.Records cfg q.request o ∧ x.opID = o.opID ∧ e.BoundsOf q.request ∧ e.admittedAt = o.admittedAtNs

/-- What a process carries. -/
def OpsProc.Carries (cfg : OpsConfig) (R : OpsRequest → Prop) (s : OpsLane) : OpsProc → Prop
  | .start r command | .startAdmit r command _ =>
    ∃ q, q.request = r ∧ Received cfg R q command
  | .launch r command _ a => (∃ q, q.request = r ∧ Received cfg R q command) ∧
    ∃ o, s.Records cfg r o ∧ a.admittedAt = some o.admittedAtNs
  | .owner x command _ | .ownerDecide x command _ _ | .ownerCall x command _ =>
    s.Carries cfg R x command
  | _ => True

lemma OpsLane.Later.carries {x : ExecRef} {command : ExecCommand} (hle : s.Later s')
    (h : s.Carries cfg R x command) : s'.Carries cfg R x command := by
  obtain ⟨e, q, o, he, howned, hreceived, ⟨ho, hrecords⟩, hid, hbounds, hat⟩ := h
  obtain ⟨e', he', hkept⟩ := hle.entries he
  obtain ⟨howned', hat'⟩ := hkept.owned howned
  refine ⟨e', q, o, he', howned', hreceived, ⟨hle.ops o ho, hrecords⟩, hid, ?_, hat'.trans hat⟩
  exact ⟨hkept.timeout.trans hbounds.1, hkept.maxOutput.trans hbounds.2⟩

lemma OpsProc.Carries.later (h : p.Carries cfg R s) (hle : s.Later s') : p.Carries cfg R s' := by
  cases p with
  | launch r command ref a =>
    obtain ⟨hreceived, o, ⟨ho, hrecords⟩, hat⟩ := h
    exact ⟨hreceived, o, ⟨hle.ops o ho, hrecords⟩, hat⟩
  | owner x command attempt => exact hle.carries h
  | ownerDecide x command seen expiry => exact hle.carries h
  | ownerCall x command decidedAt => exact hle.carries h
  | _ => exact h

lemma OpsObservation.Admitted.later {o : OpsObservation} (h : o.Admitted cfg R s) (hle : s.Later s') :
    o.Admitted cfg R s' := by
  cases o with
  | receipt r signed => trivial
  | exec call =>
    obtain ⟨q, o, hreceived, ⟨ho, hrecords⟩, h⟩ := h
    exact ⟨q, o, hreceived, ⟨hle.ops o ho, hrecords⟩, h⟩

/-! ## One step -/

lemma startStep_carries (hs : s.store.Current s.clock) (hp : p.Carries cfg R s)
    (h : OpsProc.startStep cfg s p c = some (s', qs, observed)) (hG : HandedOver s p c) :
    ∀ q ∈ qs, q.Carries cfg R s' := by
  have hsigning : ∀ (r : SandboxOpRequestV1) (receipt : Option SandboxOpReceiptV1) (t : OpsLane),
      ∀ q ∈ OpsProc.signing r receipt, q.Carries cfg R t := by
    intro r receipt t
    cases receipt <;> simp [OpsProc.signing, OpsProc.Carries]
  have hrefused : ∀ (refused : Option (SandboxOpRequestV1 × SandboxOpReceiptV1)) (t : OpsLane),
      ∀ q ∈ refused.elim [] fun a => [OpsProc.sign a.1 a.2], q.Carries cfg R t := by
    intro refused t
    cases refused <;> simp [OpsProc.Carries]
  unfold OpsProc.startStep at h
  split at h
  case h_1 r command =>
    split at h <;> cases h
    simp only [List.mem_singleton, forall_eq]
    exact hp
  case h_2 r command ref fate =>
    dsimp only at h
    split at h
    · rename_i adm hadm
      have hanswer := (admission_answer hs hadm).2
      split at h
      · cases h
        simp [OpsProc.Carries]
      · rename_i hstart
        split at h
        · cases h
          exact hsigning _ _ _
        · cases h
          simp only [List.mem_singleton, forall_eq]
          refine ⟨hp, ?_⟩
          obtain ⟨o, ho, hid, hdigest, hat⟩ := hanswer (by
            rw [Bool.and_eq_true, Bool.not_eq_true', Bool.not_eq_true', not_and_or] at hstart
            simpa using hstart)
          exact ⟨o, ⟨ho, hid, hdigest⟩, hat⟩
    · cases h
      simp [OpsProc.Carries]
  case h_4 x refused =>
    repeat' split at h
    all_goals first | (cases h; exact hrefused _ _) | (cases h; simp [OpsProc.Carries]) | cases h
  case h_5 x refused =>
    cases h
    exact hrefused _ _
  case h_6 r command ref adm =>
    obtain ⟨⟨q, hq, hreceived⟩, o, hrecords, hat⟩ := hp
    split at h
    · cases h
    rename_i e he
    have hanswer : ∀ t, OpsProc.Carries cfg R t
        (if adm.replay then .answer r (sandboxOpIDV1 r) none else .startStatus r ref adm) := by
      intro t
      split <;> trivial
    dsimp only at h
    split at h
    · cases h
      simpa only [List.mem_singleton, forall_eq] using hanswer s
    · rename_i howned
      cases h
      simp only [List.mem_cons, List.not_mem_nil, or_false, forall_eq_or_imp, forall_eq]
      refine ⟨?_, hanswer _⟩
      subst hq
      obtain ⟨hbounds, -⟩ := hG e he (by simpa using howned)
      refine ⟨e.own (adm.admittedAt.getD 0), q, o, by simp [OpsLane.update, he], rfl, hreceived, hrecords,
        hrecords.2.1.symm, hbounds, ?_⟩
      simp [OpExec.own, hat]
  all_goals
    repeat' split at h
    all_goals first | (cases h; simp [OpsProc.Carries]) | cases h

/-- The start owner carries its document from its read to its call. -/
lemma ownerStep_carries (hle : s.Later s') (hp : p.Carries cfg R s)
    (h : OpsProc.ownerStep cfg s p c = some (s', qs, observed)) : ∀ q ∈ qs, q.Carries cfg R s' := by
  unfold OpsProc.ownerStep at h
  split at h
  case h_1 x command attempt fate =>
    dsimp only at h
    split at h
    · cases h
      simp only [List.mem_singleton, forall_eq]
      exact hle.carries hp
    · split at h
      · cases h
        simp only [List.mem_singleton, forall_eq]
        exact hle.carries hp
      · cases h
        simp [OpsProc.Carries]
  case h_2 x command seen expiry =>
    split at h
    · cases h
    split at h
    · cases h
      simp
    split at h
    · cases h
      simp [OpsProc.Carries]
    split at h
    · cases h
      simp [OpsProc.Carries]
    · cases h
      simp only [List.mem_singleton, forall_eq]
      exact hp
  all_goals
    try dsimp only at h
    repeat' split at h
    all_goals first | (cases h; simp [OpsProc.Carries]) | cases h

/-- A process that is neither at the start of an exec nor its owner before the call. -/
def OpsProc.idle : OpsProc → Bool
  | .start .. | .startAdmit .. | .launch .. | .owner .. | .ownerDecide .. | .ownerCall .. => false
  | _ => true

/-- The other steps start nothing: their successors are idle, and no helper is called. -/
def Idle (qs : List OpsProc) (observed : List OpsObservation) : Prop :=
  (∀ q ∈ qs, q.idle = true) ∧ ∀ o ∈ observed, ∃ r signed, o = .receipt r signed

lemma signing_idle (r : SandboxOpRequestV1) (receipt : Option SandboxOpReceiptV1) :
    Idle (OpsProc.signing r receipt) [] := by
  cases receipt <;> simp [Idle, OpsProc.signing, OpsProc.idle]

lemma lookupStep_idle (h : OpsProc.lookupStep cfg s p c = some (s', qs, observed)) :
    Idle qs observed := by
  unfold OpsProc.lookupStep at h
  split at h
  all_goals
    try dsimp only at h
    repeat' split at h
    all_goals
      first | (cases h; exact signing_idle _ _) | (cases h; simp [Idle, OpsProc.idle]) | cases h

lemma answerStep_idle (h : OpsProc.answerStep cfg s p c = some (s', qs, observed)) :
    Idle qs observed := by
  unfold OpsProc.answerStep at h
  split at h
  case h_4 r x result seen t =>
    split at h <;> cases h
    refine ⟨by simp, fun o ho => ?_⟩
    obtain ⟨doc, -, rfl⟩ := signed_eq ho
    exact ⟨r, _, rfl⟩
  all_goals
    try dsimp only at h
    repeat' split at h
    all_goals
      first | (cases h; exact signing_idle _ _) | (cases h; simp [Idle, OpsProc.idle]) | cases h

lemma recordStep_idle (h : OpsProc.recordStep cfg s p c = some (s', qs, observed)) :
    Idle qs observed := by
  have hafter : ∀ x result k, Idle (OpsProc.afterRecord x result k) [] := by
    intro x result k
    cases k with
    | starting state =>
      cases result <;> simp only [OpsProc.afterRecord]
      · split <;> simp [Idle, OpsProc.idle]
      all_goals simp [Idle, OpsProc.idle]
    | _ => cases result <;> simp [Idle, OpsProc.afterRecord, OpsProc.idle]
  unfold OpsProc.recordStep at h
  split at h
  all_goals
    try dsimp only at h
    repeat' split at h
    all_goals
      first | (cases h; exact hafter _ _ _) | (cases h; simp [Idle, OpsProc.idle]) | cases h

lemma timerStep_idle (h : OpsProc.timerStep cfg s p c = some (s', qs, observed)) :
    Idle qs observed := by
  unfold OpsProc.timerStep at h
  split at h
  all_goals
    try dsimp only at h
    repeat' split at h
    all_goals first | (cases h; simp [Idle, OpsProc.idle]) | cases h

lemma killStep_idle (h : OpsProc.killStep cfg s p c = some (s', qs, observed)) : Idle qs observed := by
  unfold OpsProc.killStep at h
  split at h
  case h_11 x rearm k =>
    cases h
    cases k <;> cases rearm <;> simp [Idle, OpsProc.idle]
  all_goals
    try dsimp only at h
    repeat' split at h
    all_goals first | (cases h; simp [Idle, OpsProc.idle]) | cases h

lemma OpsProc.carries_of_idle (h : p.idle = true) : p.Carries cfg R s := by
  cases p <;> trivial

/-- A helper call carries out the document of its start owner. -/
lemma ownerStep_admitted (hp : p.Carries cfg R s)
    (h : OpsProc.ownerStep cfg s p c = some (s', qs, observed)) :
    ∀ o ∈ observed, o.Admitted cfg R s := by
  unfold OpsProc.ownerStep at h
  split at h
  case h_3 x command decidedAt =>
    split at h
    · cases h
    rename_i e he
    cases h
    obtain ⟨e', q, o, he', -, hreceived, hrecords, hid, hbounds, hat⟩ := hp
    rw [he, Option.some.injEq] at he'
    subst he'
    simp only [List.mem_singleton, forall_eq]
    refine ⟨q, o, hreceived, hrecords, hid, hbounds.2, decidedAt, ?_⟩
    simp only [OpsProc.startTimeout, hbounds.1, hat]
  all_goals
    try dsimp only at h
    repeat' split at h
    all_goals first | (cases h; simp) | cases h

/-- `execStart` signs receipts, and calls no helper. -/
lemma startStep_receipts (h : OpsProc.startStep cfg s p c = some (s', qs, observed)) :
    ∀ o ∈ observed, ∃ r signed, o = .receipt r signed := by
  have hsigned : ∀ (r : SandboxOpRequestV1) (receipt : Option SandboxOpReceiptV1),
      ∀ o ∈ OpsProc.signed cfg r receipt, ∃ r signed, o = .receipt r signed := by
    intro r receipt o ho
    obtain ⟨doc, -, rfl⟩ := signed_eq ho
    exact ⟨r, _, rfl⟩
  unfold OpsProc.startStep at h
  split at h
  all_goals
    try dsimp only at h
    repeat' split at h
    all_goals first | (cases h; exact hsigned _ _) | (cases h; simp) | cases h

/-- **What a step carries on**: the successors carry the document of the process, and a helper call
carries it out. -/
lemma step_carries (hs : s.store.Current s.clock) (hp : p.Carries cfg R s)
    (h : OpsProc.step cfg s p c = some (s', qs, observed)) (hG : HandedOver s p c) :
    (∀ q ∈ qs, q.Carries cfg R s') ∧ ∀ o ∈ observed, o.Admitted cfg R s' := by
  have hle := (opsStep_effect h).later hs
  have hidle : Idle qs observed →
      (∀ q ∈ qs, q.Carries cfg R s') ∧ ∀ o ∈ observed, o.Admitted cfg R s' := by
    rintro ⟨hqs, hobs⟩
    refine ⟨fun q hq => q.carries_of_idle (hqs q hq), fun o ho => ?_⟩
    obtain ⟨r, signed, rfl⟩ := hobs o ho
    trivial
  have hstart : OpsProc.startStep cfg s p c = some (s', qs, observed) →
      (∀ q ∈ qs, q.Carries cfg R s') ∧ ∀ o ∈ observed, o.Admitted cfg R s' := by
    intro h
    refine ⟨startStep_carries hs hp h hG, fun o ho => ?_⟩
    obtain ⟨r, signed, rfl⟩ := startStep_receipts h o ho
    trivial
  have howner : OpsProc.ownerStep cfg s p c = some (s', qs, observed) →
      (∀ q ∈ qs, q.Carries cfg R s') ∧ ∀ o ∈ observed, o.Admitted cfg R s' := fun h =>
    ⟨ownerStep_carries hle hp h, fun o ho => (ownerStep_admitted hp h o ho).later hle⟩
  unfold OpsProc.step at h
  split at h
  all_goals
    first
      | exact hstart h
      | exact hidle (lookupStep_idle h)
      | exact hidle (answerStep_idle h)
      | exact howner h
      | exact hidle (recordStep_idle h)
      | exact hidle (timerStep_idle h)
      | exact hidle (killStep_idle h)

/-! ## At most one call -/

/-- The process owns the start of an exec and has not called the helper. -/
def OpsProc.starts (execID : String) : OpsProc → Bool
  | .owner x _ _ | .ownerDecide x _ _ _ | .ownerCall x _ _ => x.opID = execID
  | _ => false

/-- The helper is called for an exec. -/
def OpsObservation.calls (execID : String) : OpsObservation → Bool
  | .exec call => call.execID = execID
  | .receipt _ _ => false

/-- The step of `launchStart` that takes the entry of an exec. -/
def OpsProc.Takes (s : OpsLane) (p : OpsProc) (execID : String) : Prop :=
  ∃ r command ref adm e, p = .launch r command ref adm ∧ s.entries[ref]? = some e ∧ e.owned = false ∧
    sandboxOpIDV1 r = execID

/-- The starts and calls after a step are those before it, or one more where an entry is taken. -/
def Weighs (s : OpsLane) (p : OpsProc) (qs : List OpsProc) (observed : List OpsObservation)
    (execID : String) : Prop :=
  observed.countP (·.calls execID) + qs.countP (·.starts execID) ≤ (if p.starts execID then 1 else 0) ∨
    p.Takes s execID ∧ observed.countP (·.calls execID) + qs.countP (·.starts execID) ≤ 1

lemma weighs_of_idle {execID : String} (h : Idle qs observed) : Weighs s p qs observed execID := by
  have hqs : qs.countP (·.starts execID) = 0 := by
    refine List.countP_eq_zero.mpr fun q hq => ?_
    have hidle := h.1 q hq
    cases q <;> simp_all [OpsProc.starts, OpsProc.idle]
  have hobs : observed.countP (·.calls execID) = 0 := by
    refine List.countP_eq_zero.mpr fun o ho => ?_
    obtain ⟨r, signed, rfl⟩ := h.2 o ho
    simp [OpsObservation.calls]
  exact .inl (by omega)

lemma startStep_weighs (execID : String) (h : OpsProc.startStep cfg s p c = some (s', qs, observed)) :
    Weighs s p qs observed execID := by
  have hobs : observed.countP (·.calls execID) = 0 := by
    refine List.countP_eq_zero.mpr fun o ho => ?_
    obtain ⟨r, signed, rfl⟩ := startStep_receipts h o ho
    simp [OpsObservation.calls]
  unfold Weighs
  rw [hobs]
  have hsigning : ∀ (r : SandboxOpRequestV1) (receipt : Option SandboxOpReceiptV1),
      (OpsProc.signing r receipt).countP (·.starts execID) = 0 := by
    intro r receipt
    cases receipt <;> simp [OpsProc.signing, OpsProc.starts]
  have hrefused : ∀ refused : Option (SandboxOpRequestV1 × SandboxOpReceiptV1),
      (refused.elim [] fun a => [OpsProc.sign a.1 a.2]).countP (·.starts execID) = 0 := by
    intro refused
    cases refused <;> simp [OpsProc.starts]
  unfold OpsProc.startStep at h
  split at h
  case h_6 r command ref adm =>
    split at h
    · cases h
    rename_i e he
    dsimp only at h
    split at h
    · cases h
      refine .inl ?_
      split <;> simp [OpsProc.starts]
    · rename_i howned
      cases h
      by_cases hid : sandboxOpIDV1 r = execID
      · refine .inr ⟨⟨r, command, ref, adm, e, rfl, he, by simpa using howned, hid⟩, ?_⟩
        split <;> simp [OpsProc.starts, hid]
      · refine .inl ?_
        split <;> simp [OpsProc.starts, hid]
  all_goals
    try dsimp only at h
    repeat' split at h
    all_goals
      first
        | (cases h; rw [hsigning]; exact .inl (Nat.zero_le _))
        | (cases h; rw [hrefused]; exact .inl (Nat.zero_le _))
        | (cases h; simp [OpsProc.starts])
        | cases h

lemma ownerStep_weighs (execID : String) (h : OpsProc.ownerStep cfg s p c = some (s', qs, observed)) :
    Weighs s p qs observed execID := by
  refine .inl ?_
  unfold OpsProc.ownerStep at h
  split at h
  all_goals
    try dsimp only at h
    repeat' split at h
    all_goals
      first
        | (cases h; simp [OpsProc.starts, OpsObservation.calls, List.countP_cons])
        | cases h

lemma step_weighs (execID : String) (h : OpsProc.step cfg s p c = some (s', qs, observed)) :
    Weighs s p qs observed execID := by
  unfold OpsProc.step at h
  split at h
  all_goals
    first
      | exact startStep_weighs execID h
      | exact weighs_of_idle (lookupStep_idle h)
      | exact weighs_of_idle (answerStep_idle h)
      | exact ownerStep_weighs execID h
      | exact weighs_of_idle (recordStep_idle h)
      | exact weighs_of_idle (timerStep_idle h)
      | exact weighs_of_idle (killStep_idle h)

/-- The entry that the map holds for an exec has an owner. -/
def OpsLane.Owned (s : OpsLane) (execID : String) : Prop :=
  ∃ ref e, s.execEntry execID = some ref ∧ s.entries[ref]? = some e ∧ e.owned = true

/-- Another key is found where it was after a key is deleted. -/
lemma lookup_filter_ne {key other : String} (h : key ≠ other) (l : List (String × ℕ)) :
    (l.filter (·.1 ≠ other)).lookup key = l.lookup key := by
  induction l with
  | nil => rfl
  | cons a l ih =>
    by_cases ha : a.1 = other
    · have hne : (key == a.1) = false := beq_eq_false_iff_ne.mpr (ha ▸ h)
      rw [List.filter_cons_of_neg (by simp [ha]), ih, List.lookup_cons, hne]
    · rw [List.filter_cons_of_pos (by simp [ha]), List.lookup_cons, List.lookup_cons, ih]

/-- **An owner stays**, but where its entry is taken out of the map. -/
lemma OpsEffect.owned (h : OpsEffect cfg s p s') (hs : s.store.Current s.clock) {execID : String}
    (howned : s.Owned execID) : s'.Owned execID ∨ ∃ x refused, p = .dropping x refused ∧ x.opID = execID := by
  obtain ⟨ref, e, hentry, he, ho⟩ := howned
  obtain ⟨e', he', hkept⟩ := (h.later hs).entries he
  have hkeep : s'.execEntry execID = some ref → s'.Owned execID := fun hentry' =>
    ⟨ref, e', hentry', he', (hkept.owned ho).1⟩
  cases h with
  | join r command =>
    refine .inl (hkeep ?_)
    unfold OpsLane.join
    split
    · exact hentry
    · rename_i hnone
      have hne : execID ≠ sandboxOpIDV1 r := by
        rintro rfl
        rw [hnone] at hentry
        cases hentry
      simp only [OpsLane.execEntry, List.lookup_cons, beq_eq_false_iff_ne.mpr hne]
      exact hentry
  | delete x refused at_dropping =>
    by_cases hid : x.opID = execID
    · exact .inr ⟨x, refused, at_dropping, hid⟩
    · refine .inl (hkeep ?_)
      exact (lookup_filter_ne (Ne.symm hid) s.execs).trans hentry
  | _ => exact .inl (hkeep hentry)

/-- The counts of starts and calls for an exec, over the processes and what was observed. -/
structure StartsOnce (cfg : OpsConfig) (R : OpsRequest → Prop) (t : Pool.Config OpsLane OpsProc)
    (obs : List OpsObservation) : Prop where
  current : t.shared.store.Current t.shared.clock
  carries : ∀ p ∈ t.procs, p.Carries cfg R t.shared
  admitted : ∀ o ∈ obs, o.Admitted cfg R t.shared
  once : ∀ execID, obs.countP (·.calls execID) + t.procs.countP (·.starts execID) ≤ 1
  owned : ∀ execID, 0 < obs.countP (·.calls execID) + t.procs.countP (·.starts execID) →
    t.shared.Owned execID

/-- `launchStart` takes an entry that has no owner. -/
lemma launch_takes {r : SandboxOpRequestV1} {command : ExecCommand} {ref : ℕ} {adm : SandboxOpAdmission}
    {e : OpExec} (he : s.entries[ref]? = some e) (hfree : e.owned = false)
    (h : OpsProc.step cfg s (.launch r command ref adm) c = some (s', qs, observed)) :
    s' = s.update ref (·.own (adm.admittedAt.getD 0)) := by
  cases c <;> simp only [OpsProc.step, OpsProc.startStep, he, hfree] at h <;> cases h
  rfl

/-- One step keeps the count: an entry is taken by one process only. -/
lemma StartsOnce.step {pre post : List OpsProc} (hI : StartsOnce cfg R ⟨s, pre ++ p :: post⟩ obs)
    (h : OpsProc.step cfg s p c = some (s', qs, observed)) (hG : HandedOver s p c) :
    StartsOnce cfg R ⟨s', pre ++ qs ++ post⟩ (obs ++ observed) := by
  have heffect := opsStep_effect h
  have hle := heffect.later hI.current
  have hp : p.Carries cfg R s := hI.carries p (by simp)
  obtain ⟨hqs, hadmitted⟩ := step_carries hI.current hp h hG
  have hcount : ∀ execID, (obs.countP (·.calls execID) + (pre ++ p :: post).countP (·.starts execID)) =
      obs.countP (·.calls execID) + (pre.countP (·.starts execID) + post.countP (·.starts execID)) +
        (if p.starts execID then 1 else 0) := by
    intro execID
    simp only [List.countP_append, List.countP_cons]
    omega
  have hcount' : ∀ execID, (obs ++ observed).countP (·.calls execID) +
      (pre ++ qs ++ post).countP (·.starts execID) =
      obs.countP (·.calls execID) + (pre.countP (·.starts execID) + post.countP (·.starts execID)) +
        (observed.countP (·.calls execID) + qs.countP (·.starts execID)) := by
    intro execID
    simp only [List.countP_append]
    omega
  -- where an entry is taken, the exec has not been started before
  have hnone : ∀ execID, p.Takes s execID →
      obs.countP (·.calls execID) + (pre ++ p :: post).countP (·.starts execID) = 0 := by
    rintro execID ⟨r, command, ref, adm, e, rfl, he, hfree, rfl⟩
    by_contra hne
    obtain ⟨ref', e', hentry', he', ho'⟩ := hI.owned _ (Nat.pos_of_ne_zero hne)
    obtain ⟨-, hentry⟩ := hG e he hfree
    rw [hentry, Option.some.injEq] at hentry'
    subst hentry'
    replace he' : s.entries[ref]? = some e' := he'
    rw [he, Option.some.injEq] at he'
    rw [← he', hfree] at ho'
    cases ho'
  refine ⟨heffect.current hI.current, fun q hq => ?_, fun o ho => ?_, fun execID => ?_,
    fun execID hpos => ?_⟩
  · simp only [List.mem_append] at hq
    rcases hq with (hq | hq) | hq
    · exact (hI.carries q (by simp [hq])).later hle
    · exact hqs q hq
    · exact (hI.carries q (by simp [hq])).later hle
  · rcases List.mem_append.mp ho with ho | ho
    · exact (hI.admitted o ho).later hle
    · exact hadmitted o ho
  · have honce := hI.once execID
    rw [hcount']
    rw [hcount] at honce
    rcases step_weighs execID h with hw | ⟨htakes, hw⟩
    · omega
    · have hzero := hnone execID htakes
      rw [hcount] at hzero
      omega
  · rw [hcount'] at hpos
    rcases step_weighs execID h with hw | ⟨htakes, -⟩
    · -- whatever started the exec took its entry before
      have howned : s.Owned execID := hI.owned execID (by rw [hcount]; omega)
      rcases heffect.owned hI.current howned with hs' | ⟨x, refused, rfl, rfl⟩
      · exact hs'
      · obtain ⟨ref, e, hentry, he, ho⟩ := howned
        rw [hG ref e hentry he] at ho
        cases ho
    · obtain ⟨r, command, ref, adm, e, rfl, he, hfree, rfl⟩ := htakes
      obtain ⟨-, hentry⟩ := hG e he hfree
      rw [launch_takes he hfree h]
      exact ⟨ref, e.own (adm.admittedAt.getD 0), hentry, by simp [OpsLane.update, he], rfl⟩

namespace Sample

open Protocol.Sample

variable {c n : Char} {validator : String}

/-- Another `exec_start` with the same nonce, a timeout of 2 s and twice the output. -/
def second' (c : Char) (validator : String) (n : Char) : SandboxOpRequestV1 :=
  start c validator n 2000 2048 0 second

/-- The entry that the second document made. -/
def foreign (c : Char) (validator : String) (n : Char) : OpExec := opExec (second' c validator n)

section Steps

variable (entry : OpExec)

end Steps

end Sample

end Misscomputer.Miner
