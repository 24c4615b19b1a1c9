import Mathlib.Data.Prod.Lex
import Mathlib.Data.String.Basic
import Mathlib.Logic.Function.Basic
import Misscomputer.Lib.Except
import Misscomputer.Lib.Machine
import Misscomputer.Lib.Sorting

set_option relaxedAutoImplicit false
set_option autoImplicit false

/-!
# Agreement across finalized chain views

A quorum of RPC endpoints is asked for its finalized heights and then for its snapshots at the lowest of
them. A call that meets a height below the last agreed one is refused. The check is made before the snapshots
are asked for and the height is stored after they have come, so a call that waits may be overtaken by another.

## Main definitions

* `Quorum.commonBlock`, `Quorum.agree` — the two halves of a call, before and after the snapshots come.
* `Quorum.step` — the calls in progress, each resumed when its answers come.
* `Quorum.Overtaken` — a call returned after another that, while it waited, had returned a higher block.

## Main results

* `Quorum.never_back_iff` — the heights of a run never go back exactly when no call of it was overtaken.
* `Quorum.overtaken_goes_back` — a run of two calls that goes back.

## References

* `src/misscomputer_subnet/chain_quorum.py` (`FinalizedRpcQuorum`)
* `src/misscomputer_subnet/chain.py` (`MetagraphSnapshot`)
-/

namespace Misscomputer

namespace Quorum

open Except (reject)

/-! ## Snapshots -/

/-- `NeuronRecord`; the stake is given by its `repr`. -/
structure NeuronRecord where
  uid : ℤ
  hotkey : String
  validatorPermit : Bool
  taoStake : String
  axon : Option String
  active : Bool
deriving DecidableEq

/-- `MetagraphSnapshot`. -/
structure MetagraphSnapshot where
  network : String
  netuid : ℤ
  block : ℤ
  tempo : ℤ
  neurons : List NeuronRecord
  finalized : Bool
deriving DecidableEq

/-- A neuron in a fingerprint. -/
abbrev NeuronKey : Type := ℤ ×ₗ String ×ₗ Bool ×ₗ String ×ₗ String ×ₗ Bool

/-- The order in which a fingerprint lists the neurons. -/
def NeuronRecord.key (n : NeuronRecord) : NeuronKey :=
  toLex (n.uid, toLex (n.hotkey, toLex (n.validatorPermit, toLex (n.taoStake,
    toLex (n.axon.getD "", n.active)))))

/-- What two views of a metagraph have to agree on. -/
structure IdentityFingerprint where
  network : String
  netuid : ℤ
  block : ℤ
  tempo : ℤ
  neurons : List NeuronKey
deriving DecidableEq

/-- `identity_fingerprint`. -/
def MetagraphSnapshot.identityFingerprint (s : MetagraphSnapshot) : IdentityFingerprint where
  network := s.network
  netuid := s.netuid
  block := s.block
  tempo := s.tempo
  neurons := Sorting.sortOn id (s.neurons.map NeuronRecord.key)

/-! ## The two halves of a call -/

/-- What an endpoint answers: it raises, or returns a value that is of the type asked for or not. -/
inductive Reply (α : Type)
  | raised
  | foreign
  | value (a : α)
deriving DecidableEq

/-- The value of a reply. -/
def Reply.value? {α : Type} : Reply α → Option α
  | .value a => some a
  | _ => none

/-- The alert codes of `RpcAgreementError`. -/
inductive AlertCode
  | rpcReadFailed | rpcFinalizedHeadUnavailable | rpcFinalizedHeadInvalid | rpcFinalizedLagExceeded
  | rpcFinalizedRollback | rpcSnapshotUnavailable | rpcSnapshotNotFinalized | rpcSnapshotDisagreement
deriving DecidableEq

/-- `code`. -/
def AlertCode.text : AlertCode → String
  | .rpcReadFailed => "rpc_read_failed"
  | .rpcFinalizedHeadUnavailable => "rpc_finalized_head_unavailable"
  | .rpcFinalizedHeadInvalid => "rpc_finalized_head_invalid"
  | .rpcFinalizedLagExceeded => "rpc_finalized_lag_exceeded"
  | .rpcFinalizedRollback => "rpc_finalized_rollback"
  | .rpcSnapshotUnavailable => "rpc_snapshot_unavailable"
  | .rpcSnapshotNotFinalized => "rpc_snapshot_not_finalized"
  | .rpcSnapshotDisagreement => "rpc_snapshot_disagreement"

/-- `_fail`: the code of the alert and the heights it reports. -/
structure RpcAgreementError where
  code : AlertCode
  observedBlocks : List ℤ
deriving DecidableEq

/-- `phase`. -/
def RpcAgreementError.phase (e : RpcAgreementError) : String :=
  match e.code with
  | .rpcReadFailed => "read"
  | .rpcFinalizedHeadUnavailable | .rpcFinalizedHeadInvalid | .rpcFinalizedLagExceeded
  | .rpcFinalizedRollback => "finalized_head"
  | .rpcSnapshotUnavailable | .rpcSnapshotNotFinalized | .rpcSnapshotDisagreement => "metagraph"

/-- `min`, over the endpoints. -/
def lowest (heights : List ℤ) : ℤ := heights.min?.getD 0

/-- `max`, over the endpoints. -/
def highest (heights : List ℤ) : ℤ := heights.max?.getD 0

/-- `_sync`, up to the snapshots: the heights and the lowest of them, when no check fails. -/
def commonBlock (maxFinalizedLag : ℤ) (lastAgreedBlock : Option ℤ) (replies : List (Reply ℤ)) :
    Except RpcAgreementError (List ℤ × ℤ) := do
  reject (Reply.raised ∈ replies) ⟨.rpcFinalizedHeadUnavailable, []⟩
  reject (Reply.foreign ∈ replies) ⟨.rpcFinalizedHeadInvalid, []⟩
  let heights := replies.filterMap Reply.value?
  reject (∃ height ∈ heights, height < 0) ⟨.rpcFinalizedHeadInvalid, heights⟩
  let common := lowest heights
  reject (highest heights - common > maxFinalizedLag) ⟨.rpcFinalizedLagExceeded, heights⟩
  reject (∃ last ∈ lastAgreedBlock, common < last) ⟨.rpcFinalizedRollback, heights⟩
  return (heights, common)

/-- `_sync`, from the snapshots on: the first snapshot, when they agree at the common height. -/
def agree (heights : List ℤ) (common : ℤ) (replies : List (Reply MetagraphSnapshot)) :
    Except RpcAgreementError MetagraphSnapshot := do
  reject (Reply.raised ∈ replies) ⟨.rpcSnapshotUnavailable, heights⟩
  reject (Reply.foreign ∈ replies) ⟨.rpcSnapshotUnavailable, heights⟩
  let snapshots := replies.filterMap Reply.value?
  reject (∃ s ∈ snapshots, s.finalized = false ∨ s.block ≠ common) ⟨.rpcSnapshotNotFinalized, heights⟩
  match snapshots with
  | [] => .error ⟨.rpcSnapshotUnavailable, heights⟩
  | first :: rest => do
    reject (∃ s ∈ rest, s.identityFingerprint ≠ first.identityFingerprint)
      ⟨.rpcSnapshotDisagreement, heights⟩
    return first

/-- A snapshot that is agreed on is at the common height. -/
lemma block_of_agree {heights : List ℤ} {common : ℤ} {replies : List (Reply MetagraphSnapshot)}
    {s : MetagraphSnapshot} (h : agree heights common replies = .ok s) : s.block = common := by
  rw [agree] at h
  simp only [Except.bind_eq_ok, Except.reject_eq_ok, exists_const] at h
  obtain ⟨-, -, hblocks, h⟩ := h
  cases hsnapshots : replies.filterMap Reply.value? with
  | nil =>
    rw [hsnapshots] at h
    cases h
  | cons first rest =>
    rw [hsnapshots] at h hblocks
    simp only [Except.bind_eq_ok] at h
    obtain ⟨-, -, h⟩ := h
    obtain rfl := Except.ok.inj h
    push Not at hblocks
    exact (hblocks first List.mem_cons_self).2

/-- A height that passes the checks is no lower than the last agreed one. -/
lemma le_of_commonBlock {maxFinalizedLag : ℤ} {lastAgreedBlock : Option ℤ} {replies : List (Reply ℤ)}
    {heights : List ℤ} {common : ℤ} (h : commonBlock maxFinalizedLag lastAgreedBlock replies =
      .ok (heights, common)) : ∀ last ∈ lastAgreedBlock, last ≤ common := by
  rw [commonBlock] at h
  simp only [Except.bind_eq_ok, Except.reject_eq_ok, exists_const] at h
  obtain ⟨-, -, -, -, hrollback, h⟩ := h
  obtain ⟨-, rfl⟩ := Prod.mk.inj (Except.ok.inj h)
  push Not at hrollback
  exact hrollback

/-! ## The calls in progress -/

/-- Where a call awaits: for the heights, or for the snapshots at the common height. -/
inductive Waiting
  | heights
  | snapshots (heights : List ℤ) (common : ℤ)

/-- A quorum and its calls of `sync` in progress, by the task that called. -/
structure FinalizedRpcQuorum where
  lastAgreedBlock : Option ℤ
  calls : ℕ → Option Waiting

/-- What happens next: a task calls `sync`, and is admitted or not; the answers of the endpoints reach a call
that waits for them; a call is cancelled. -/
inductive Input
  | sync (task : ℕ) (admitted : Bool)
  | heights (task : ℕ) (replies : List (Reply ℤ))
  | snapshots (task : ℕ) (replies : List (Reply MetagraphSnapshot))
  | cancel (task : ℕ)

/-- What is seen of a call: it asks the endpoints for their snapshots at a height, returns or raises. -/
inductive Output
  | requested (task : ℕ) (block : ℤ)
  | returned (task : ℕ) (snapshot : MetagraphSnapshot)
  | raised (task : ℕ) (error : RpcAgreementError)
  | cancelled (task : ℕ)

/-- The task of an output. -/
def Output.task : Output → ℕ
  | .requested task _ | .returned task _ | .raised task _ | .cancelled task => task

/-- The block of a snapshot that is returned. -/
def Output.block? : Output → Option ℤ
  | .returned _ snapshot => some snapshot.block
  | _ => none

/-- The blocks of the snapshots, in the order in which they are returned. -/
def blocks (outputs : List Output) : List ℤ := outputs.filterMap Output.block?

/-- A call resumes or begins. Between two awaits nothing else runs. -/
def step (maxFinalizedLag : ℤ) (q : FinalizedRpcQuorum) : Input → FinalizedRpcQuorum × List Output
  | .sync task admitted =>
    match q.calls task with
    | none =>
      if admitted then ({ q with calls := Function.update q.calls task (some .heights) }, [])
      else (q, [.raised task ⟨.rpcReadFailed, []⟩])
    | some _ => (q, [])
  | .heights task replies =>
    match q.calls task with
    | some .heights =>
      match commonBlock maxFinalizedLag q.lastAgreedBlock replies with
      | .error e => ({ q with calls := Function.update q.calls task none }, [.raised task e])
      | .ok (heights, common) =>
        ({ q with calls := Function.update q.calls task (some (.snapshots heights common)) },
          [.requested task common])
    | _ => (q, [])
  | .snapshots task replies =>
    match q.calls task with
    | some (.snapshots heights common) =>
      match agree heights common replies with
      | .error e => ({ q with calls := Function.update q.calls task none }, [.raised task e])
      | .ok snapshot =>
        ({ lastAgreedBlock := some common, calls := Function.update q.calls task none },
          [.returned task snapshot])
    | _ => (q, [])
  | .cancel task =>
    match q.calls task with
    | some _ => ({ q with calls := Function.update q.calls task none }, [.cancelled task])
    | none => (q, [])

/-- The quorum before any call. -/
def initial : FinalizedRpcQuorum := ⟨none, fun _ => none⟩

/-! ## Heights that never go back -/

/-- The blocks returned in a run do not go back, and neither does the last agreed block. -/
def NeverBack (maxFinalizedLag : ℤ) (inputs : List Input) : Prop :=
  (blocks (Machine.trace (step maxFinalizedLag) initial inputs)).Pairwise (· ≤ ·) ∧
    ∀ before between after, inputs = before ++ between ++ after →
      ∀ b ∈ (Machine.run (step maxFinalizedLag) initial before).lastAgreedBlock,
        ∃ b' ∈ (Machine.run (step maxFinalizedLag) initial (before ++ between)).lastAgreedBlock, b ≤ b'

/-- A call was overtaken: between its request for the snapshots and its return, another call returned a
snapshot of a higher block than it had requested. -/
def Overtaken (outputs : List Output) : Prop :=
  ∃ before between after task requested snapshot, outputs =
      before ++ .requested task requested :: between ++ .returned task snapshot :: after ∧
    (∀ o ∈ between, o.task ≠ task) ∧ ∃ higher ∈ blocks between, requested < higher

section Runs

variable {maxFinalizedLag : ℤ}

/-- An overtaken call stays overtaken. -/
lemma Overtaken.append {outputs : List Output} (h : Overtaken outputs) (more : List Output) :
    Overtaken (outputs ++ more) := by
  obtain ⟨before, between, after, task, requested, snapshot, rfl, hother, hhigher⟩ := h
  exact ⟨before, between, after ++ more, task, requested, snapshot, by simp, hother, hhigher⟩

/-- What a step can do: a call returns, a call requests the snapshots, a call ends otherwise, or nothing is
seen. -/
lemma step_cases (q : FinalizedRpcQuorum) (input : Input) :
    let q' := Machine.next (step maxFinalizedLag) q input
    let outputs := Machine.answer (step maxFinalizedLag) q input
    (∃ task heights common snapshot, q.calls task = some (.snapshots heights common) ∧
        snapshot.block = common ∧ outputs = [.returned task snapshot] ∧
        q' = ⟨some common, Function.update q.calls task none⟩) ∨
      (∃ task heights common, (∀ last ∈ q.lastAgreedBlock, last ≤ common) ∧
        outputs = [.requested task common] ∧
        q' = { q with calls := Function.update q.calls task (some (.snapshots heights common)) }) ∨
      (∃ o, o.block? = none ∧ (∀ task block, o ≠ .requested task block) ∧ outputs = [o] ∧
        q' = { q with calls := Function.update q.calls o.task none }) ∨
      outputs = [] ∧ (q' = q ∨ ∃ task,
        q' = { q with calls := Function.update q.calls task (some .heights) }) := by
  have hend : ∀ {o : Output} {calls : ℕ → Option Waiting}, calls o.task = none →
      Function.update calls o.task none = calls := fun h => by rw [← h, Function.update_eq_self]
  cases input with
  | sync task admitted =>
    simp only [Machine.next, Machine.answer, step]
    cases hcall : q.calls task with
    | some waiting => exact .inr (.inr (.inr ⟨rfl, .inl rfl⟩))
    | none =>
      cases admitted with
      | true => exact .inr (.inr (.inr ⟨rfl, .inr ⟨task, rfl⟩⟩))
      | false =>
        refine .inr (.inr (.inl ⟨.raised task ⟨.rpcReadFailed, []⟩, rfl, nofun, rfl, ?_⟩))
        rw [hend (o := .raised task ⟨.rpcReadFailed, []⟩) hcall]
        rfl
  | heights task replies =>
    simp only [Machine.next, Machine.answer, step]
    cases hcall : q.calls task with
    | none => exact .inr (.inr (.inr ⟨rfl, .inl rfl⟩))
    | some waiting =>
      cases waiting with
      | snapshots heights common => exact .inr (.inr (.inr ⟨rfl, .inl rfl⟩))
      | heights =>
        cases hcommon : commonBlock maxFinalizedLag q.lastAgreedBlock replies with
        | error e =>
          dsimp only
          exact .inr (.inr (.inl ⟨.raised task e, rfl, nofun, rfl, rfl⟩))
        | ok result =>
          dsimp only
          exact .inr (.inl ⟨task, result.1, result.2, le_of_commonBlock hcommon, rfl, rfl⟩)
  | snapshots task replies =>
    simp only [Machine.next, Machine.answer, step]
    cases hcall : q.calls task with
    | none => exact .inr (.inr (.inr ⟨rfl, .inl rfl⟩))
    | some waiting =>
      cases waiting with
      | heights => exact .inr (.inr (.inr ⟨rfl, .inl rfl⟩))
      | snapshots heights common =>
        cases hagree : agree heights common replies with
        | error e =>
          simp only [hagree]
          exact .inr (.inr (.inl ⟨.raised task e, rfl, nofun, rfl, rfl⟩))
        | ok snapshot =>
          simp only [hagree]
          exact .inl ⟨task, heights, common, snapshot, hcall, block_of_agree hagree, rfl, rfl⟩
  | cancel task =>
    simp only [Machine.next, Machine.answer, step]
    cases hcall : q.calls task with
    | none => exact .inr (.inr (.inr ⟨rfl, .inl rfl⟩))
    | some waiting => exact .inr (.inr (.inl ⟨.cancelled task, rfl, nofun, rfl, rfl⟩))

/-- The last request of a task before its next output is determined by the outputs. -/
lemma request_unique {before before' between between' : List Output} {task : ℕ} {c c' : ℤ}
    (h : before ++ .requested task c :: between = before' ++ .requested task c' :: between')
    (hbetween : ∀ o ∈ between, o.task ≠ task) (hbetween' : ∀ o ∈ between', o.task ≠ task) : c = c' := by
  have hlast : ∀ {l m : List Output} {c : ℤ}, (∀ o ∈ m, o.task ≠ task) →
      ((l ++ .requested task c :: m).filter fun o => o.task = task).getLast? = some (.requested task c) := by
    intro l m c hm
    have hnone : (m.filter fun o => o.task = task) = [] := by
      rw [List.filter_eq_nil_iff]
      exact fun o ho htask => hm o ho (of_decide_eq_true htask)
    have hrequest : decide ((Output.requested task c).task = task) = true := decide_eq_true rfl
    rw [List.filter_append, List.filter_cons, if_pos hrequest, hnone, List.getLast?_concat]
  have hsame := (hlast hbetween).symm.trans ((congrArg _ (congrArg _ h)).trans (hlast hbetween'))
  exact (Output.requested.inj (Option.some.inj hsame)).2

/-- What holds of a quorum and of the outputs so far. -/
structure Traced (q : FinalizedRpcQuorum) (outputs : List Output) : Prop where
  last : q.lastAgreedBlock = (blocks outputs).getLast?
  /-- A call that waits for its snapshots has requested them, and nothing was seen of it since. -/
  waiting : ∀ task heights common, q.calls task = some (.snapshots heights common) →
    ∃ before between, outputs = before ++ .requested task common :: between ∧
      (∀ o ∈ between, o.task ≠ task) ∧ (¬ Overtaken outputs → ∀ b ∈ blocks before, b ≤ common)
  /-- A call returns the height it requested. -/
  matched : ∀ before between after task requested snapshot, outputs =
    before ++ .requested task requested :: between ++ .returned task snapshot :: after →
      (∀ o ∈ between, o.task ≠ task) → snapshot.block = requested
  ascending : ¬ Overtaken outputs → (blocks outputs).Pairwise (· ≤ ·)

lemma blocks_append (l m : List Output) : blocks (l ++ m) = blocks l ++ blocks m :=
  List.filterMap_append

/-- The last agreed block bounds the blocks that are returned in order. -/
lemma le_getLast {l : List ℤ} (h : l.Pairwise (· ≤ ·)) {b : ℤ} (hb : b ∈ l) :
    ∃ last ∈ l.getLast?, b ≤ last := by
  induction l using List.reverseRecOn with
  | nil => cases hb
  | append_singleton l a _ =>
    refine ⟨a, List.getLast?_concat, ?_⟩
    rw [List.mem_append, List.mem_singleton] at hb
    rcases hb with hb | rfl
    · exact (List.pairwise_append.mp h).2.2 b hb a (List.mem_singleton_self a)
    · exact le_refl b

/-- The last part of a list that ends with a given element. -/
lemma concat_split {before between after outputs : List Output} {r t o : Output}
    (h : outputs ++ [o] = before ++ r :: between ++ t :: after) :
    (after = [] ∧ t = o ∧ outputs = before ++ r :: between) ∨
      ∃ after', outputs = before ++ r :: between ++ t :: after' := by
  cases after using List.reverseRecOn with
  | nil =>
    obtain ⟨hinit, hlast⟩ := List.append_inj' h rfl
    exact .inl ⟨rfl, (List.singleton_inj.mp hlast).symm, hinit⟩
  | append_singleton after a =>
    have hassoc : outputs ++ [o] = (before ++ r :: between ++ t :: after) ++ [a] := by
      rw [h]
      simp
    exact .inr ⟨after, (List.append_inj' hassoc rfl).1⟩

/-- An output that returns nothing leaves what was matched. -/
lemma matched_concat {outputs : List Output} {o : Output} (ho : o.block? = none)
    (h : ∀ before between after task requested snapshot, outputs =
      before ++ .requested task requested :: between ++ .returned task snapshot :: after →
        (∀ o ∈ between, o.task ≠ task) → snapshot.block = requested) :
    ∀ before between after task requested snapshot, outputs ++ [o] =
      before ++ .requested task requested :: between ++ .returned task snapshot :: after →
        (∀ o ∈ between, o.task ≠ task) → snapshot.block = requested := by
  intro before between after task requested snapshot heq hother
  rcases concat_split heq with ⟨-, ht, -⟩ | ⟨after', hinit⟩
  · rw [← ht] at ho
    cases ho
  · exact h before between after' task requested snapshot hinit hother

/-- A step keeps the calls that wait for their snapshots in view. -/
lemma Traced.waiting_concat {q : FinalizedRpcQuorum} {outputs : List Output} (h : Traced q outputs) (o : Output)
    {task : ℕ} {heights : List ℤ} {common : ℤ} (hcall : q.calls task = some (.snapshots heights common))
    (hother : o.task ≠ task) :
    ∃ before between, outputs ++ [o] = before ++ .requested task common :: between ∧
      (∀ o ∈ between, o.task ≠ task) ∧ (¬ Overtaken (outputs ++ [o]) → ∀ b ∈ blocks before, b ≤ common) := by
  obtain ⟨before, between, rfl, hbetween, hbound⟩ := h.waiting task heights common hcall
  refine ⟨before, between ++ [o], by simp, ?_, fun hnot => hbound fun hover => hnot (hover.append _)⟩
  rw [List.forall_mem_append, List.forall_mem_singleton]
  exact ⟨hbetween, hother⟩

/-- **A step keeps what is traced.** -/
lemma Traced.step {q : FinalizedRpcQuorum} {outputs : List Output} (h : Traced q outputs) (input : Input) :
    Traced (Machine.next (step maxFinalizedLag) q input)
      (outputs ++ Machine.answer (Quorum.step maxFinalizedLag) q input) := by
  have hcases := @step_cases maxFinalizedLag q input
  dsimp only at hcases
  rcases hcases with ⟨task, heights, common, snapshot, hcall, hblock, hout, hq⟩ |
    ⟨task, heights, common, hlast, hout, hq⟩ | ⟨o, hnone, -, hout, hq⟩ | ⟨hout, hq⟩
  · -- the call returns: nobody that returned while it waited had a higher block
    rw [hout, hq]
    obtain ⟨before, between, heq, hbetween, hbound⟩ := h.waiting task heights common hcall
    have hblocks : blocks (outputs ++ [.returned task snapshot]) = blocks outputs ++ [common] := by
      rw [blocks_append, ← hblock]
      rfl
    refine ⟨by rw [hblocks, List.getLast?_concat], ?_, ?_, ?_⟩
    · intro other heights' common' hother
      dsimp only at hother
      by_cases htask : other = task
      · rw [htask] at hother
        simp at hother
      · rw [Function.update_of_ne htask] at hother
        exact h.waiting_concat (.returned task snapshot) hother (Ne.symm htask)
    · intro before' between' after task' requested snapshot' heq' hother
      rcases concat_split heq' with ⟨-, ht, hinit⟩ | ⟨after', hinit⟩
      · obtain ⟨rfl, rfl⟩ := Output.returned.inj ht
        rw [hblock]
        exact request_unique (heq.symm.trans hinit) hbetween hother
      · exact h.matched before' between' after' task' requested snapshot' hinit hother
    · intro hnot
      rw [hblocks, List.pairwise_append]
      have hold : ¬ Overtaken outputs := fun hover => hnot (hover.append _)
      refine ⟨h.ascending hold, List.pairwise_singleton _ _, fun b hb a ha => ?_⟩
      rw [List.mem_singleton.mp ha]
      rw [heq, blocks_append, List.mem_append] at hb
      rcases hb with hb | hb
      · exact hbound hold b hb
      · have hb' : b ∈ blocks between := hb
        by_contra hlt
        exact hnot ⟨before, between, [], task, common, snapshot, by rw [heq], hbetween, b, hb', not_le.mp hlt⟩
  · -- the call passes the check: no block so far is higher
    rw [hout, hq]
    have hblocks : blocks (outputs ++ [.requested task common]) = blocks outputs := by
      rw [blocks_append]
      exact List.append_nil _
    refine ⟨by rw [hblocks]; exact h.last, ?_, matched_concat rfl h.matched, ?_⟩
    · intro other heights' common' hother
      dsimp only at hother
      by_cases htask : other = task
      · rw [htask, Function.update_self] at hother
        obtain ⟨-, rfl⟩ := Waiting.snapshots.inj (Option.some.inj hother)
        refine ⟨outputs, [], by rw [htask], by simp, fun hnot b hb => ?_⟩
        obtain ⟨last, hmem, hle⟩ := le_getLast (h.ascending fun hover => hnot (hover.append _)) hb
        exact hle.trans (hlast last (h.last ▸ hmem))
      · rw [Function.update_of_ne htask] at hother
        exact h.waiting_concat (.requested task common) hother (Ne.symm htask)
    · intro hnot
      rw [hblocks]
      exact h.ascending fun hover => hnot (hover.append _)
  · rw [hout, hq]
    have hblocks : blocks (outputs ++ [o]) = blocks outputs := by
      have hone : blocks [o] = [] := by
        rw [blocks, List.filterMap_cons_none hnone, List.filterMap_nil]
      rw [blocks_append, hone, List.append_nil]
    refine ⟨by rw [hblocks]; exact h.last, ?_, matched_concat hnone h.matched, ?_⟩
    · intro other heights' common' hother
      dsimp only at hother
      by_cases htask : other = o.task
      · rw [htask, Function.update_self] at hother
        cases hother
      · rw [Function.update_of_ne htask] at hother
        exact h.waiting_concat o hother (Ne.symm htask)
    · intro hnot'
      rw [hblocks]
      exact h.ascending fun hover => hnot' (hover.append _)
  · rw [hout, List.append_nil]
    rcases hq with hq | ⟨task, hq⟩
    · rw [hq]
      exact h
    · rw [hq]
      refine ⟨h.last, fun other heights' common' hother => ?_, h.matched, h.ascending⟩
      dsimp only at hother
      by_cases htask : other = task
      · rw [htask, Function.update_self] at hother
        cases hother
      · rw [Function.update_of_ne htask] at hother
        exact h.waiting other heights' common' hother

lemma traced_initial : Traced initial [] where
  last := rfl
  waiting := by simp [initial]
  matched := by simp
  ascending := by simp [blocks]

/-- Every run is traced. -/
theorem traced_run (inputs : List Input) : Traced (Machine.run (step maxFinalizedLag) initial inputs)
    (Machine.trace (step maxFinalizedLag) initial inputs) := by
  have hrun : Traced (Machine.run (Quorum.step maxFinalizedLag) initial inputs)
      ([] ++ Machine.trace (Quorum.step maxFinalizedLag) initial inputs) :=
    Machine.run_history (J := Traced) (fun _ i _ t obs _ _ h => h.step i) traced_initial
  rwa [List.nil_append] at hrun

/-- **The heights of a run never go back exactly when no call of it is overtaken.**

**Proof sketch.** A call returns the height it requested. When it is overtaken, the higher block is returned
before it. When it is not, the blocks before its request are bounded by the last agreed one, which the check
compared with, and those after it by the condition. -/
theorem never_back_iff (maxFinalizedLag : ℤ) (inputs : List Input) :
    NeverBack maxFinalizedLag inputs ↔
      ¬ Overtaken (Machine.trace (step maxFinalizedLag) initial inputs) := by
  have htraced := @traced_run maxFinalizedLag inputs
  constructor
  · rintro ⟨hascending, -⟩ ⟨before, between, after, task, requested, snapshot, heq, hother, higher, hmem, hlt⟩
    have hblock := htraced.matched before between after task requested snapshot heq hother
    have hblocks : blocks (Machine.trace (step maxFinalizedLag) initial inputs) =
        blocks (before ++ .requested task requested :: between) ++ (snapshot.block :: blocks after) := by
      rw [heq, blocks_append]
      rfl
    rw [hblocks, List.pairwise_append] at hascending
    have hin : higher ∈ blocks (before ++ .requested task requested :: between) := by
      rw [blocks_append, List.mem_append]
      exact Or.inr hmem
    have hle := hascending.2.2 higher hin snapshot.block List.mem_cons_self
    omega
  · intro hnot
    have hascending := htraced.ascending hnot
    refine ⟨hascending, ?_⟩
    rintro before between after rfl b hb
    have hearlier := @traced_run maxFinalizedLag before
    have hlater := @traced_run maxFinalizedLag (before ++ between)
    rw [hearlier.last] at hb
    rw [hlater.last]
    apply le_getLast
    · refine hascending.sublist ?_
      rw [Machine.trace_append _ _ (before ++ between), blocks_append]
      exact List.sublist_append_left _ _
    · rw [Machine.trace_append, blocks_append]
      exact List.mem_append_left _ (List.mem_of_mem_getLast? hb)

end Runs

/-! ## A run that goes back -/

namespace Sample

/-- The view of a chain without neurons at a height. -/
def view (block : ℤ) : MetagraphSnapshot := ⟨"finney", 24, block, 360, [], true⟩

/-- Two endpoints report a height, then another; the call that read the second one returns first. -/
def inputs : List Input :=
  [.sync 0 true, .sync 1 true, .heights 0 [.value 99, .value 99], .heights 1 [.value 100, .value 100],
    .snapshots 1 [.value (view 100), .value (view 100)], .snapshots 0 [.value (view 99), .value (view 99)]]

end Sample

/-- **A run of two calls goes back**: height 100 is agreed on first, and height 99 after it. -/
theorem overtaken_goes_back : ¬ NeverBack 8 Sample.inputs := by
  intro h
  have hblocks : blocks (Machine.trace (step 8) initial Sample.inputs) = [100, 99] := by
    decide
  have hascending := h.1
  rw [hblocks] at hascending
  revert hascending
  decide

end Quorum

end Misscomputer
