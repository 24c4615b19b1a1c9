import Misscomputer.Durable.StaticEndpoints
import Misscomputer.Lib.Pool
import Misscomputer.Lib.Reservation

set_option relaxedAutoImplicit false
set_option autoImplicit false

/-!
# Retiring a static endpoint

One static endpoint of an agent, and any number of calls that assign it, that deactivate it and that fence its
deactivation, in any interleaving. An assignment pins the site, records a ready receipt and then lets the endpoint be
served; a deactivation marks the endpoint, fences it in the store, takes it down, drops the pin and closes the row. A
fence of the deactivation marks the endpoint and fences it in the store, and takes nothing down.

## Main definitions

* `StaticRetire.Owner` — the identity of the endpoint.
* `StaticRetire.Call`, `StaticRetire.step`, `StaticRetire.agent` — the calls and their steps.
* `StaticRetire.Careful` — the endpoint is not served when it is marked without being taken down, and is not served
  already when it is published; a deactivation that found no row does not return over a row that is still open.
* `StaticRetire.Accounted` — the invariant: what is served, active or pinned belongs to a call in flight or was
  published.

## Main results

* `StaticRetire.moves_step` — what one step of a call can do.
* `StaticRetire.accounted_run` — careful runs keep the invariant.
* `StaticRetire.retired_for_good` — when all calls have returned and a deactivation succeeded, the endpoint is not
  served, its row is inactive and its pins are released once, then and ever after.
* `StaticRetire.served_after_fence` — a run in which the endpoint is served after its deactivation was fenced.

## Implementation notes

A call is what it does next, with the ticket and the pin it has. Whether a site can be pinned, whether a receipt can
be signed, what it says besides its stage, and the readings of the clock are chosen for each step. A pin is a number.
Store calls fail only as their transactions answer. Other users of the replay store reserve in it at any time.

## References

* `pkg/miner/static.go` (`admitStatic`, `assignStatic`, `failedStatic`, `deactivateStatic`, `StaticSites.remove`)
* `pkg/miner/agent.go` (`Deactivate`, `FenceDeactivation`)
* `pkg/durable/static_v1.go`, `pkg/durable/store.go`
-/

namespace Misscomputer

namespace StaticRetire

open Durable (StaticTicketV1 StaticRow StaticReceiptV1 DeactivationFenceRow EndpointStore EndpointError)

/-! ## Calls -/

/-- The identity of one static endpoint of this agent. -/
structure Owner where
  endpointID : String
  deploymentID : String
  minerID : String
  validatorHotkey : String
  named : endpointID ≠ "" ∧ deploymentID ≠ "" ∧ minerID ≠ ""

/-- The ticket is for the endpoint. -/
def Owner.Has (o : Owner) (t : StaticTicketV1) : Prop :=
  t.endpointID = o.endpointID ∧ t.deploymentID = o.deploymentID ∧ t.minerID = o.minerID ∧
    t.validatorHotkey = o.validatorHotkey

instance (o : Owner) (t : StaticTicketV1) : Decidable (o.Has t) := inferInstanceAs (Decidable (_ ∧ _))

/-- A call, by what it does next. -/
inductive Call
  /-- `admitStatic` reads the stored assignment. -/
  | assigning (t : StaticTicketV1)
  /-- The stored assignment is active and ready: is the endpoint served? -/
  | recorded (t : StaticTicketV1)
  /-- `ReserveReplay`. -/
  | looked (t : StaticTicketV1)
  /-- `SaveStaticAssignment`. -/
  | reserved (t : StaticTicketV1)
  /-- `pinStatic`. -/
  | saved (t : StaticTicketV1)
  /-- `SignStaticReceiptV1` of the ready receipt. -/
  | pinned (t : StaticTicketV1) (pin : ℕ)
  /-- `SaveStaticReceipt` of the ready receipt. -/
  | signed (t : StaticTicketV1) (pin : ℕ)
  /-- Under the lock, the endpoint is published unless its deactivation was requested. -/
  | ready (t : StaticTicketV1) (pin : ℕ)
  /-- `site.Release()` after the ready receipt was not stored. -/
  | refused (t : StaticTicketV1) (pin : ℕ)
  /-- `site.Release()` after the deactivation was requested. -/
  | withdrawn (t : StaticTicketV1) (pin : ℕ)
  /-- `CompleteStaticDeactivation` of the creator. -/
  | completing (t : StaticTicketV1)
  /-- `failedStatic`. -/
  | failing (t : StaticTicketV1)
  /-- `deactivateStatic` reads the stored assignment. -/
  | deactivating
  /-- There is one: the endpoint is marked. -/
  | found (t : StaticTicketV1)
  /-- `FenceEndpointDeactivation`. -/
  | asked (t : StaticTicketV1)
  /-- `StaticSites.remove`, up to the release. -/
  | fenced
  /-- `endpoint.site.Release()`, where there was an endpoint. -/
  | removed (pin : Option ℕ)
  /-- `CompleteStaticDeactivation`, and `Deactivate` returns. -/
  | dropped
  /-- There is none: `Deactivate` goes on and marks the endpoint. -/
  | unfound
  /-- `Deactivate` reads `AssignmentTicket` and returns. -/
  | unfoundAsked
  /-- `FenceDeactivation` marks the endpoint. -/
  | fencing
  /-- `FenceEndpointDeactivation`. -/
  | fencingAsked
  /-- `FenceDeactivation` reads `EndpointIncarnation` and returns. -/
  | fencedAlone

/-- What the calls share: the endpoint tables, the replay store, the agent's `deactivationRequested` and static
endpoint (as its pin), how many pins there were, which were released, and whether a `Deactivate` or a
`FenceDeactivation` has returned nil with the static ticket saved. -/
structure Shared where
  store : EndpointStore
  rows : Reservation.Rows (String × String)
  requested : Bool
  serving : Option ℕ
  pinned : ℕ
  released : List ℕ
  deactivated : Bool

/-- What is chosen for a step: readings of the clock, for the end of a reservation, in `validateReplayReservation` and in
the transaction; whether pinning or signing succeeds; and what a receipt says besides its stage. -/
structure Choice where
  read : ℤ
  validated : ℤ
  now : ℤ
  succeeds : Bool
  receipt : String

/-- A call that arrives. -/
inductive Request
  | assign (t : StaticTicketV1)
  | deactivate
  | fence

/-- Whether the static ticket is saved. -/
def Shared.saved (s : Shared) (o : Owner) : Bool := (s.store.staticOf o.endpointID).isSome

/-- A call of `Deactivate` or `FenceDeactivation` returns nil. -/
def Shared.succeed (s : Shared) (o : Owner) : Shared := { s with deactivated := s.deactivated || s.saved o }

/-- The next step of a call. An organic assignment of the endpoint would lead out of these steps. -/
def step (o : Owner) (s : Shared) (p : Call) (c : Choice) : Option (Shared × List Call × List Unit) :=
  match p with
  | .assigning t =>
    match s.store.staticOf o.endpointID with
    | none => some (s, [.looked t], [])
    | some row =>
      if row.ticketJSON ≠ t then some (s, [], [])
      else if row.active = true ∧ row.receiptJSON.map StaticReceiptV1.stage = some "ready" then
        some (s, [.recorded t], [])
      else some (s, [.looked t], [])
  | .recorded t => if s.serving.isSome then some (s, [], []) else some (s, [.looked t], [])
  | .looked t =>
    if t.assignmentNonce = "" ∨ c.read + 600000000000 ≤ c.validated then some (s, [], [])
    else
      match Reservation.reserve s.rows ("assignment", t.assignmentNonce) (c.read + 600000000000) c.now with
      | (rows, true) => some ({ s with rows }, [.reserved t], [])
      | (rows, false) => some ({ s with rows }, [], [])
  | .reserved t =>
    match Durable.saveStaticAssignment s.store t "processing" c.now with
    | (store, .ok _) => some ({ s with store }, [.saved t], [])
    | (store, .error _) => some ({ s with store }, [], [])
  | .saved t =>
    if c.succeeds = true then some ({ s with pinned := s.pinned + 1 }, [.pinned t s.pinned], [])
    else some (s, [.failing t], [])
  | .pinned t pin =>
    if c.succeeds = true then some (s, [.signed t pin], [])
    else some ({ s with released := s.released ++ [pin] }, [], [])
  | .signed t pin =>
    match Durable.saveStaticReceipt s.store ⟨o.endpointID, "ready", c.receipt⟩ true c.now with
    | (store, .ok _) => some ({ s with store }, [.ready t pin], [])
    | (store, .error _) => some ({ s with store }, [.refused t pin], [])
  | .ready t pin =>
    if s.requested = true then some (s, [.withdrawn t pin], [])
    else some ({ s with serving := some pin }, [], [])
  | .refused t pin => some ({ s with released := s.released ++ [pin] }, [.failing t], [])
  | .withdrawn t pin => some ({ s with released := s.released ++ [pin] }, [.completing t], [])
  | .completing t =>
    some ({ s with store := Durable.completeStaticDeactivation s.store o.endpointID c.now }, [.failing t], [])
  | .failing _ =>
    if c.succeeds = true then
      some ({ s with store := (Durable.saveStaticReceipt s.store ⟨o.endpointID, "failed", c.receipt⟩ false c.now).1 },
        [], [])
    else some (s, [], [])
  | .deactivating =>
    match s.store.staticOf o.endpointID with
    | none => some (s, [.unfound], [])
    | some row => some (s, [.found row.ticketJSON], [])
  | .found t => some ({ s with requested := true }, [.asked t], [])
  | .asked t =>
    match Durable.fenceEndpointDeactivation s.store o.endpointID t.deploymentID t.minerID t.validatorHotkey c.now with
    | .ok store => some ({ s with store }, [.fenced], [])
    | .error _ => some (s, [], [])
  | .fenced => some ({ s with serving := none }, [.removed s.serving], [])
  | .removed pin => some ({ s with released := s.released ++ pin.toList }, [.dropped], [])
  | .dropped =>
    some (Shared.succeed { s with store := Durable.completeStaticDeactivation s.store o.endpointID c.now } o, [], [])
  | .unfound => some ({ s with requested := true }, [.unfoundAsked], [])
  | .unfoundAsked =>
    match s.store.assignmentOf o.endpointID with
    | none => some (s.succeed o, [], [])
    | some _ => none
  | .fencing => some ({ s with requested := true }, [.fencingAsked], [])
  | .fencingAsked =>
    match Durable.fenceEndpointDeactivation s.store o.endpointID o.deploymentID o.minerID o.validatorHotkey c.now with
    | .ok store => some ({ s with store }, [.fencedAlone], [])
    | .error _ => some (s, [], [])
  | .fencedAlone =>
    match s.store.incarnationOf o.endpointID with
    | none => some (s.succeed o, [], [])
    | some _ => none

section

-- the equations of `step` are made here, once for the lemmas about its cases
attribute [local simp] step

end

/-- The agent: calls for the endpoint arrive and take their steps, and others reserve in the replay store. -/
def agent (o : Owner) :
    Pool.Program Shared Call Choice Request ((String × String) × ℤ × ℤ) Unit where
  spawn _ r :=
    match r with
    | .assign t => if o.Has t then some (.assigning t) else none
    | .deactivate => some .deactivating
    | .fence => some .fencing
  step := step o
  env s x := { s with rows := (Reservation.reserve s.rows x.1 x.2.1 x.2.2).1 }

/-- Before the first call. -/
def start : Pool.Config Shared Call := ⟨⟨.empty, [], false, none, 0, [], false⟩, []⟩

/-- Configurations of the agent. -/
abbrev Config := Pool.Config Shared Call

/-! ## The store -/

/-- The endpoint is fenced, or its row is closed. -/
def Sealed (o : Owner) (s : EndpointStore) : Prop :=
  (s.fenceOf o.endpointID).isSome ∨ ∃ row ∈ s.staticOf o.endpointID, row.status = "deactivated"

/-- The row is active. -/
def Active (o : Owner) (s : EndpointStore) : Prop := ∃ row ∈ s.staticOf o.endpointID, row.active = true

/-- The endpoint is a static one, and its row and its fence are the owner's. -/
structure Owned (o : Owner) (s : EndpointStore) : Prop where
  assignment : s.assignmentOf o.endpointID = none
  incarnation : s.incarnationOf o.endpointID = none
  fence : ∀ fence ∈ s.fenceOf o.endpointID, fence.deploymentID = o.deploymentID ∧ fence.minerHotkey = o.minerID ∧
    fence.validatorHotkey = o.validatorHotkey
  row : ∀ row ∈ s.staticOf o.endpointID, row.deploymentID = o.deploymentID ∧ row.minerHotkey = o.minerID ∧
    row.validatorHotkey = o.validatorHotkey ∧ o.Has row.ticketJSON

/-- What every store call keeps. -/
structure Keeps (o : Owner) (s s' : EndpointStore) : Prop where
  owned : Owned o s'
  sealed : Sealed o s → Sealed o s'
  fenced : (s.fenceOf o.endpointID).isSome → (s'.fenceOf o.endpointID).isSome

section Store

variable {o : Owner} {s s' : EndpointStore} {t : StaticTicketV1}

lemma owned_empty (o : Owner) : Owned o .empty :=
  ⟨rfl, rfl, (fun _ h => nomatch h), (fun _ h => nomatch h)⟩

lemma Owned.keeps (h : Owned o s) : Keeps o s s := ⟨h, id, id⟩

/-- The fence of an owned endpoint is no conflict. -/
lemma Owned.endpointFencedTx (h : Owned o s) :
    Durable.endpointFencedTx s o.endpointID o.deploymentID o.minerID o.validatorHotkey =
      .ok (s.fenceOf o.endpointID).isSome := by
  unfold Durable.endpointFencedTx
  cases hf : s.fenceOf o.endpointID with
  | none => rfl
  | some fence =>
    obtain ⟨hd, hm, hv⟩ := h.fence fence hf
    simp [hd, hm, hv]

/-- The row of the endpoint after it is rewritten. -/
lemma staticOf_setStatics {f : StaticRow → StaticRow} (hid : ∀ r, (f r).endpointID = r.endpointID) (E : String) :
    (s.setStatics (·.endpointID = E) f).staticOf E = (s.staticOf E).map f := by
  rw [Durable.staticOf_set hid]
  cases hrow : s.staticOf E with
  | none => rfl
  | some row => simp [Durable.staticOf_key hrow]

/-- **Rewriting the row** but for its identity and its ticket keeps what there is to keep. -/
lemma Owned.setStatics (h : Owned o s) {f : StaticRow → StaticRow}
    (hid : ∀ r, (f r).endpointID = r.endpointID ∧ (f r).deploymentID = r.deploymentID ∧
      (f r).minerHotkey = r.minerHotkey ∧ (f r).validatorHotkey = r.validatorHotkey ∧ (f r).ticketJSON = r.ticketJSON)
    (hclosed : ∀ row ∈ s.staticOf o.endpointID, row.status = "deactivated" → (f row).status = "deactivated") :
    Keeps o s (s.setStatics (·.endpointID = o.endpointID) f) := by
  have hrows := staticOf_setStatics (s := s) (fun r => (hid r).1) o.endpointID
  refine ⟨⟨h.assignment, h.incarnation, h.fence, ?_⟩, ?_, id⟩
  · intro row hrow
    rw [hrows] at hrow
    obtain ⟨old, hold, rfl⟩ := Option.map_eq_some_iff.mp hrow
    obtain ⟨-, hd, hm, hv, ht⟩ := hid old
    rw [hd, hm, hv, ht]
    exact h.row old hold
  · rintro (hfence | ⟨row, hrow, hstatus⟩)
    · exact .inl hfence
    · refine .inr ⟨f row, ?_, hclosed row hrow hstatus⟩
      rw [hrows]
      exact Option.map_eq_some_iff.mpr ⟨row, hrow, rfl⟩

/-- Whether the rewritten row is active. -/
lemma active_setStatics {f : StaticRow → StaticRow} (hid : ∀ r, (f r).endpointID = r.endpointID) :
    Active o (s.setStatics (·.endpointID = o.endpointID) f) ↔
      ∃ row ∈ s.staticOf o.endpointID, (f row).active = true := by
  unfold Active
  rw [staticOf_setStatics hid]
  simp only [Option.mem_def, Option.map_eq_some_iff]
  exact ⟨fun ⟨_, ⟨row, hrow, heq⟩, h⟩ => ⟨row, hrow, heq ▸ h⟩, fun ⟨row, hrow, h⟩ => ⟨_, ⟨row, hrow, rfl⟩, h⟩⟩

lemma not_active_setStatics {f : StaticRow → StaticRow} (hid : ∀ r, (f r).endpointID = r.endpointID)
    (hoff : ∀ r, (f r).active = false) : ¬ Active o (s.setStatics (·.endpointID = o.endpointID) f) := by
  rw [active_setStatics hid]
  rintro ⟨row, -, hrow⟩
  rw [hoff] at hrow
  cases hrow

/-- **Inserting the row**, which is inactive. -/
lemma Owned.insert (h : Owned o s) {new : StaticRow} (hrow : s.staticOf o.endpointID = none)
    (howner : new.endpointID = o.endpointID ∧ new.deploymentID = o.deploymentID ∧ new.minerHotkey = o.minerID ∧
      new.validatorHotkey = o.validatorHotkey ∧ o.Has new.ticketJSON)
    (hinactive : new.active = false) (hs' : s' = { s with statics := s.statics ++ [new] }) :
    Keeps o s s' ∧ ¬ Active o s' := by
  subst hs'
  have hnew : EndpointStore.staticOf { s with statics := s.statics ++ [new] } o.endpointID = some new := by
    unfold EndpointStore.staticOf at hrow ⊢
    rw [Table.rowOf_append, hrow, Option.none_or, if_pos howner.1]
  refine ⟨⟨⟨h.assignment, h.incarnation, h.fence, ?_⟩, ?_, id⟩, ?_⟩
  · intro row hmem
    rw [hnew] at hmem
    cases hmem
    exact howner.2
  · rintro (hfence | ⟨row, hmem, -⟩)
    · exact .inl hfence
    · rw [hrow] at hmem
      cases hmem
  · rintro ⟨row, hmem, hactive⟩
    rw [hnew] at hmem
    cases hmem
    rw [hinactive] at hactive
    cases hactive

/-- **Saving a ticket** makes no row active. -/
lemma Owned.save (h : Owned o s) (ht : o.Has t) (status : String) (now : ℤ) :
    Keeps o s (Durable.saveStaticAssignment s t status now).1 ∧
      (Active o (Durable.saveStaticAssignment s t status now).1 → Active o s) := by
  obtain ⟨hE, hd, hm, hv⟩ := ht
  unfold Durable.saveStaticAssignment Durable.saveStaticAssignmentTx
  rw [hE, hd, hm, hv, h.assignment, h.endpointFencedTx]
  simp only [Option.isSome_none, Bool.false_eq_true, if_false, bind, Except.bind]
  cases hrow : s.staticOf o.endpointID with
  | none =>
    dsimp only
    generalize hnew : (StaticRow.mk _ _ _ _ _ _ _ _ _ _ _) = new
    have hinactive : new.active = false := by rw [← hnew]
    have howner : new.endpointID = o.endpointID ∧ new.deploymentID = o.deploymentID ∧ new.minerHotkey = o.minerID ∧
        new.validatorHotkey = o.validatorHotkey ∧ o.Has new.ticketJSON := by
      rw [← hnew]
      exact ⟨rfl, rfl, rfl, rfl, hE, hd, hm, hv⟩
    cases hins : Durable.insertStatic s new with
    | error e => exact ⟨h.keeps, id⟩
    | ok s₁ =>
      obtain ⟨hkeeps, hactive⟩ := h.insert hrow howner hinactive (Durable.insertStatic_eq_ok hins)
      cases (s.fenceOf o.endpointID).isSome
      · exact ⟨hkeeps, fun h' => absurd h' hactive⟩
      · exact ⟨hkeeps, fun h' => absurd h' hactive⟩
  | some existing =>
    dsimp only
    split
    · exact ⟨h.keeps, id⟩
    · split
      · dsimp only [Durable.commitFenced]
        refine ⟨h.setStatics (fun r => ⟨rfl, rfl, rfl, rfl, rfl⟩) (fun _ _ _ => rfl), fun hactive => ?_⟩
        exact absurd hactive (not_active_setStatics (fun r => rfl) (fun r => rfl))
      · rename_i hopen
        dsimp only [Durable.commitFenced]
        refine ⟨h.setStatics (fun r => ⟨rfl, rfl, rfl, rfl, rfl⟩) ?_, fun hactive => ?_⟩
        · intro row hmem hstatus
          rw [hrow] at hmem
          cases hmem
          exact absurd (.inl hstatus) hopen
        · obtain ⟨row, hmem, hrow⟩ := (active_setStatics (by intro r; rfl)).mp hactive
          exact ⟨row, hmem, hrow⟩

/-- **Storing a receipt** makes a row active only where the receipt activates it, is accepted, and the endpoint is not
sealed. -/
lemma Owned.receipt (h : Owned o s) (stage members : String) (activate : Bool) (now : ℤ) :
    Keeps o s (Durable.saveStaticReceipt s ⟨o.endpointID, stage, members⟩ activate now).1 ∧
      (Active o (Durable.saveStaticReceipt s ⟨o.endpointID, stage, members⟩ activate now).1 →
        activate = true ∧ (Durable.saveStaticReceipt s ⟨o.endpointID, stage, members⟩ activate now).2 = .ok () ∧
          ¬ Sealed o s) := by
  unfold Durable.saveStaticReceipt Durable.saveStaticReceiptTx
  dsimp only
  cases hrow : s.staticOf o.endpointID with
  | none =>
    dsimp only [Durable.commitFenced]
    refine ⟨h.keeps, fun ⟨row, hmem, _⟩ => ?_⟩
    rw [hrow] at hmem
    cases hmem
  | some row =>
    obtain ⟨hd, hm, hv, -⟩ := h.row row hrow
    simp only [hd, hm, hv, h.endpointFencedTx, bind, Except.bind]
    set deactivated : Bool := (s.fenceOf o.endpointID).isSome || decide (row.status = "deactivated") with hdone
    have hkeeps : Keeps o s (s.setStatics (·.endpointID = o.endpointID) fun r =>
        { r with
          status := if deactivated then "deactivated" else stage
          active := activate && !deactivated
          receiptJSON := some ⟨o.endpointID, stage, members⟩
          updatedAtNs := now }) := by
      refine h.setStatics (fun r => ⟨rfl, rfl, rfl, rfl, rfl⟩) fun r hr hstatus => ?_
      rw [hrow] at hr
      cases hr
      simp [hdone, hstatus]
    have hactive := active_setStatics (o := o) (s := s) (f := fun r =>
      { r with
        status := if deactivated then "deactivated" else stage
        active := activate && !deactivated
        receiptJSON := some ⟨o.endpointID, stage, members⟩
        updatedAtNs := now }) (fun r => rfl)
    have hsealed : ¬ deactivated = true → ¬ Sealed o s := by
      rintro hopen (hfence | ⟨r, hr, hstatus⟩)
      · exact hopen (by simp [hdone, hfence])
      · rw [hrow] at hr
        cases hr
        exact hopen (by simp [hdone, hstatus])
    clear_value deactivated
    cases activate with
    | false =>
      refine ⟨hkeeps, fun h' => ?_⟩
      obtain ⟨r, -, hr⟩ := hactive.mp h'
      simp at hr
    | true =>
      cases deactivated with
      | false => exact ⟨hkeeps, fun _ => ⟨rfl, rfl, hsealed (by simp)⟩⟩
      | true =>
        refine ⟨hkeeps, fun h' => ?_⟩
        obtain ⟨r, -, hr⟩ := hactive.mp h'
        simp at hr

/-- **Closing the row.** -/
lemma Owned.complete (h : Owned o s) (now : ℤ) :
    Keeps o s (Durable.completeStaticDeactivation s o.endpointID now) ∧
      ¬ Active o (Durable.completeStaticDeactivation s o.endpointID now) := by
  exact ⟨h.setStatics (fun r => ⟨rfl, rfl, rfl, rfl, rfl⟩) (fun _ _ _ => rfl),
    not_active_setStatics (fun r => rfl) (fun r => rfl)⟩

/-- **The owner's fence** is written, and changes nothing else of the endpoint. -/
lemma Owned.fenceEndpointDeactivation (h : Owned o s) (now : ℤ) :
    ∃ s', Durable.fenceEndpointDeactivation s o.endpointID o.deploymentID o.minerID o.validatorHotkey now = .ok s' ∧
      Keeps o s s' ∧ (s'.fenceOf o.endpointID).isSome ∧ (Active o s' → Active o s) := by
  obtain ⟨hE, hd, hm⟩ := o.named
  have hupsert : ∃ s₁, Durable.upsertFence s ⟨o.endpointID, o.deploymentID, o.minerID, o.validatorHotkey, now⟩ = .ok s₁ := by
    unfold Durable.upsertFence
    dsimp only
    cases hf : s.fenceOf o.endpointID with
    | none => exact ⟨_, rfl⟩
    | some fence => exact ⟨_, if_pos (h.fence fence hf)⟩
  obtain ⟨s₁, hs₁⟩ := hupsert
  obtain ⟨heq, ⟨fence, hfence, hsame⟩, -⟩ := Durable.upsertFence_eq_ok hs₁
  have hcheck : Durable.fenceOwnerCheck s o.endpointID o.deploymentID o.minerID o.validatorHotkey = .ok () := by
    unfold Durable.fenceOwnerCheck
    rw [h.assignment, h.incarnation]
    rfl
  obtain ⟨p, f, hf, hresult⟩ : ∃ p f, (∀ r : Durable.AssignmentRow, (f r).endpointID = r.endpointID) ∧
      Durable.fenceEndpointDeactivation s o.endpointID o.deploymentID o.minerID o.validatorHotkey now =
        .ok (s₁.setAssignments p f) := by
    refine ⟨_, _, ?_, by
      unfold Durable.fenceEndpointDeactivation
      rw [if_neg (by simp [hE, hd, hm]), hcheck]
      simp only [bind, Except.bind, hs₁]
      rfl⟩
    intro r
    rfl
  have hassignment : (s₁.setAssignments p f).assignmentOf o.endpointID = none := by
    rw [Durable.assignmentOf_set hf, heq]
    exact Option.map_eq_none_iff.mpr h.assignment
  have hincarnation : s₁.incarnationOf o.endpointID = none := by
    rw [heq]
    exact h.incarnation
  have hstatic : s₁.staticOf o.endpointID = s.staticOf o.endpointID := by
    rw [heq]
    rfl
  have hfenced : (s₁.fenceOf o.endpointID).isSome := Option.isSome_iff_exists.mpr ⟨fence, hfence⟩
  refine ⟨_, hresult, ⟨⟨hassignment, hincarnation, ?_, ?_⟩, fun _ => .inl hfenced, fun _ => hfenced⟩, hfenced, ?_⟩
  · intro other hother
    obtain rfl : fence = other := Option.some.inj (hfence.symm.trans hother)
    exact ⟨hsame.deploymentID, hsame.minerHotkey, hsame.validatorHotkey⟩
  · intro row hrow
    exact h.row row (hstatic ▸ hrow)
  · rintro ⟨row, hrow, hactive⟩
    exact ⟨row, hstatic ▸ hrow, hactive⟩

end Store

/-! ## One step of a call -/

/-- The pin a call has. -/
def Call.pins : Call → List ℕ
  | .pinned _ pin | .signed _ pin | .ready _ pin | .refused _ pin | .withdrawn _ pin => [pin]
  | .removed pin => pin.toList
  | _ => []

/-- The ticket a call has. -/
def Call.ticket : Call → Option StaticTicketV1
  | .assigning t | .recorded t | .looked t | .reserved t | .saved t | .pinned t _ | .signed t _ | .ready t _
  | .refused t _ | .withdrawn t _ | .completing t | .failing t | .found t | .asked t => some t
  | _ => none

/-- The call has marked the endpoint, or has seen it marked. -/
def Call.marked : Call → Bool
  | .withdrawn _ _ | .asked _ | .fenced | .removed _ | .dropped | .unfoundAsked | .fencingAsked | .fencedAlone => true
  | _ => false

/-- The call has fenced the endpoint. -/
def Call.hasFenced : Call → Bool
  | .fenced | .removed _ | .dropped | .fencedAlone => true
  | _ => false

/-- The call marked the endpoint and is going to take it down. -/
def Call.removes : Call → Bool
  | .asked _ | .fenced => true
  | _ => false

/-- The call made the row active or is going to take the endpoint down, and is going to close the row. -/
def Call.closes : Call → Bool
  | .ready _ _ | .withdrawn _ _ | .completing _ | .asked _ | .fenced | .removed _ | .dropped => true
  | _ => false

/-- What is known of a call in flight. -/
structure Known (o : Owner) (s : Shared) (p : Call) : Prop where
  ticket : ∀ t ∈ p.ticket, o.Has t
  marked : p.marked = true → s.requested = true
  fenced : p.hasFenced = true → (s.store.fenceOf o.endpointID).isSome

/-- A call marks the endpoint without taking it down only when it is not served; a deactivation that found no row
returns only when there is still none or it is sealed; and an endpoint is published only when it is not served. -/
def Careful (o : Owner) (s : Shared) (p : Call) (_ : Choice) : Prop :=
  match p with
  | .fencing | .unfound => s.serving = none
  | .unfoundAsked => s.store.staticOf o.endpointID = none ∨ Sealed o s.store
  | .ready _ _ => s.requested = true ∨ s.serving = none
  | _ => True

/-- What one step of a call can do to the endpoint; `qs` are the calls it leaves. -/
structure Moves (o : Owner) (s : Shared) (p : Call) (s' : Shared) (qs : List Call) : Prop where
  store : Keeps o s.store s'.store
  requested : s.requested = true → s'.requested = true
  known : ∀ q ∈ qs, Known o s' q
  removes : s'.requested = true → s'.serving ≠ none →
    (∃ q ∈ qs, q.removes = true) ∨ s.requested = true ∧ s.serving ≠ none ∧ p.removes = false
  active : Active o s'.store →
    s'.serving ≠ none ∨ (∃ q ∈ qs, q.closes = true) ∨ Active o s.store ∧ s.serving = none ∧ p.closes = false
  serves : s'.serving ≠ none → s.serving ≠ none ∨ s.requested = false
  activates : Active o s'.store → Active o s.store ∨ ¬ Sealed o s.store
  deactivated : s'.deactivated = true → s.deactivated = true ∨ s'.requested = true ∧ Sealed o s'.store
  released : ∀ pin ∈ s.released, pin ∈ s'.released
  pins : ∃ fresh, List.range s'.pinned = List.range s.pinned ++ fresh ∧
    (s'.released ++ s'.serving.toList ++ qs.flatMap Call.pins).Perm
      (s.released ++ s.serving.toList ++ p.pins ++ fresh)

section Step

variable {o : Owner} {s s' : Shared} {p : Call} {c : Choice} {qs : List Call} {observed : List Unit}

/-- A step that writes at most the store and the replay store. -/
lemma Moves.of_store {store : EndpointStore} (rows : Reservation.Rows (String × String))
    (hkeeps : Keeps o s.store store) (hknown : ∀ q ∈ qs, Known o { s with store, rows } q)
    (hremoves : p.removes = true → ∃ q ∈ qs, q.removes = true)
    (hcloses : Active o store → (∃ q ∈ qs, q.closes = true) ∨ Active o s.store ∧ p.closes = false)
    (hactive : Active o store → Active o s.store ∨ ¬ Sealed o s.store)
    (hpins : qs.flatMap Call.pins = p.pins) : Moves o s p { s with store, rows } qs where
  store := hkeeps
  requested := id
  known := hknown
  removes hrequested hserving := by
    cases hp : p.removes with
    | true => exact .inl (hremoves hp)
    | false => exact .inr ⟨hrequested, hserving, rfl⟩
  active h := by
    rcases hcloses h with h' | ⟨h', hp⟩
    · exact .inr (.inl h')
    · by_cases hserving : s.serving = none
      · exact .inr (.inr ⟨h', hserving, hp⟩)
      · exact .inl hserving
  serves := .inl
  activates := hactive
  deactivated := .inl
  released _ := id
  pins := ⟨[], (List.append_nil _).symm, by rw [hpins, List.append_nil]⟩

/-- A step that changes nothing of the endpoint. -/
lemma Moves.of_rest {rows : Reservation.Rows (String × String)} (howned : Owned o s.store)
    (hknown : ∀ q ∈ qs, Known o { s with rows } q) (hremoves : p.removes = false) (hcloses : p.closes = false)
    (hpins : qs.flatMap Call.pins = p.pins) : Moves o s p { s with rows } qs :=
  Moves.of_store rows howned.keeps hknown (by simp [hremoves]) (fun h => .inr ⟨h, hcloses⟩) .inl hpins

end Step

section Step

variable {o : Owner} {s s' : Shared} {p : Call} {c : Choice} {qs : List Call} {observed : List Unit}

/-- A call that has its ticket only is known by it. -/
lemma Known.of_ticket {q : Call} (hticket : ∀ t ∈ q.ticket, o.Has t) (hmarked : q.marked = false)
    (hfenced : q.hasFenced = false) : Known o s q :=
  ⟨hticket, by simp [hmarked], by simp [hfenced]⟩

/-- **The admission of an assignment.** -/
lemma moves_admission (howned : Owned o s.store) (hknown : Known o s p)
    (hp : ∃ t, p = .assigning t ∨ p = .recorded t ∨ p = .looked t ∨ p = .reserved t)
    (h : step o s p c = some (s', qs, observed)) : Moves o s p s' qs := by
  obtain ⟨t, hp⟩ := hp
  have hticket : o.Has t := by
    apply hknown.ticket t
    rcases hp with rfl | rfl | rfl | rfl <;> rfl
  have hnext : ∀ q : Call, q.ticket = some t → q.marked = false → q.hasFenced = false → ∀ s, ∀ q' ∈ [q], Known o s q' := by
    rintro q hq hmarked hfenced s q' hq'
    rw [List.mem_singleton.mp hq']
    refine .of_ticket (fun u hu => ?_) hmarked hfenced
    rw [hq] at hu
    exact Option.some.inj hu ▸ hticket
  rcases hp with rfl | rfl | rfl | rfl
  · simp only [step] at h
    repeat' split at h
    all_goals
      cases h
      refine Moves.of_rest howned ?_ rfl rfl rfl
    · exact hnext _ rfl rfl rfl _
    · exact List.forall_mem_nil _
    · exact hnext _ rfl rfl rfl _
    · exact hnext _ rfl rfl rfl _
  · simp only [step] at h
    split at h
    all_goals
      cases h
      refine Moves.of_rest howned ?_ rfl rfl rfl
    · exact List.forall_mem_nil _
    · exact hnext _ rfl rfl rfl _
  · simp only [step] at h
    repeat' split at h
    all_goals
      cases h
      refine Moves.of_rest howned ?_ rfl rfl rfl
    · exact List.forall_mem_nil _
    · exact hnext _ rfl rfl rfl _
    · exact List.forall_mem_nil _
  · obtain ⟨hkeeps, hactive⟩ := howned.save hticket "processing" c.now
    simp only [step] at h
    split at h
    all_goals
      rename_i store _ hsave
      cases h
      rw [hsave] at hkeeps hactive
      refine Moves.of_store _ hkeeps ?_ (by simp [Call.removes]) (fun h => .inr ⟨hactive h, rfl⟩) (fun h => .inl (hactive h)) rfl
    · exact hnext _ rfl rfl rfl _
    · exact List.forall_mem_nil _

end Step

section Step

variable {o : Owner} {s s' : Shared} {p : Call} {c : Choice} {qs : List Call} {observed : List Unit}

/-- **A site is pinned and its ready receipt signed and stored.** -/
lemma moves_pinning (howned : Owned o s.store) (hknown : Known o s p)
    (hp : ∃ t pin, p = .saved t ∨ p = .pinned t pin ∨ p = .signed t pin)
    (h : step o s p c = some (s', qs, observed)) : Moves o s p s' qs := by
  obtain ⟨t, pin, hp⟩ := hp
  have hticket : o.Has t := by
    apply hknown.ticket t
    rcases hp with rfl | rfl | rfl <;> rfl
  have hnext : ∀ q : Call, q.ticket = some t → q.marked = false → q.hasFenced = false → ∀ s, ∀ q' ∈ [q], Known o s q' := by
    rintro q hq hmarked hfenced s q' hq'
    rw [List.mem_singleton.mp hq']
    refine .of_ticket (fun u hu => ?_) hmarked hfenced
    rw [hq] at hu
    exact Option.some.inj hu ▸ hticket
  rcases hp with rfl | rfl | rfl
  · simp only [step] at h
    split at h
    · cases h
      refine ⟨howned.keeps, id, hnext _ rfl rfl rfl _, fun hrequested hserving => .inr ⟨hrequested, hserving, rfl⟩,
        fun hactive => ?_, .inl, .inl, .inl, fun _ => id, [s.pinned], List.range_succ, ?_⟩
      · by_cases hserving : s.serving = none
        · exact .inr (.inr ⟨hactive, hserving, rfl⟩)
        · exact .inl hserving
      · simp [Call.pins]
    · cases h
      exact Moves.of_rest howned (hnext _ rfl rfl rfl _) rfl rfl rfl
  · simp only [step] at h
    split at h
    · cases h
      exact Moves.of_rest howned (hnext _ rfl rfl rfl _) rfl rfl rfl
    · cases h
      refine ⟨howned.keeps, id, List.forall_mem_nil _, fun hrequested hserving => .inr ⟨hrequested, hserving, rfl⟩,
        fun hactive => ?_, .inl, .inl, .inl, fun _ => List.mem_append_left _, [], (List.append_nil _).symm, ?_⟩
      · by_cases hserving : s.serving = none
        · exact .inr (.inr ⟨hactive, hserving, rfl⟩)
        · exact .inl hserving
      · simp only [Call.pins, List.flatMap_nil, List.append_nil, List.append_assoc]
        exact List.Perm.append_left _ List.perm_append_comm
  · obtain ⟨hkeeps, hactive⟩ := howned.receipt "ready" c.receipt true c.now
    simp only [step] at h
    split at h
    all_goals
      rename_i store _ hsave
      cases h
      rw [hsave] at hkeeps hactive
    · exact Moves.of_store _ hkeeps (hnext _ rfl rfl rfl _) (by simp [Call.removes])
        (fun _ => .inl ⟨_, List.mem_singleton_self _, rfl⟩) (fun h => .inr (hactive h).2.2) rfl
    · -- A ready receipt that is not stored leaves the row inactive.
      have hrefused : ¬ Active o store := fun h => by cases (hactive h).2.1
      exact Moves.of_store _ hkeeps (hnext _ rfl rfl rfl _) (by simp [Call.removes])
        (fun h => absurd h hrefused) (fun h => absurd h hrefused) rfl

/-- **The endpoint is published or given up**, and the pin of an assignment that gives up is released. -/
lemma moves_publication (howned : Owned o s.store) (hknown : Known o s p) (hcareful : Careful o s p c)
    (hp : ∃ t pin, p = .ready t pin ∨ p = .refused t pin ∨ p = .withdrawn t pin ∨ p = .completing t ∨ p = .failing t)
    (h : step o s p c = some (s', qs, observed)) : Moves o s p s' qs := by
  obtain ⟨t, pin, hp⟩ := hp
  have hticket : o.Has t := by
    apply hknown.ticket t
    rcases hp with rfl | rfl | rfl | rfl | rfl <;> rfl
  have hthis : ∀ u ∈ some t, o.Has u := fun u hu => Option.some.inj hu ▸ hticket
  rcases hp with rfl | rfl | rfl | rfl | rfl
  · simp only [step] at h
    split at h
    · rename_i hrequested
      cases h
      refine Moves.of_store s.rows howned.keeps ?_ (by simp [Call.removes])
        (fun _ => .inl ⟨_, List.mem_singleton_self _, rfl⟩) .inl rfl
      intro q hq
      obtain rfl := List.mem_singleton.mp hq
      exact ⟨hthis, fun _ => hrequested, by simp [Call.hasFenced]⟩
    · rename_i hrequested
      cases h
      have hserving : s.serving = none := hcareful.resolve_left hrequested
      have hfalse : s.requested = false := by simpa using hrequested
      refine ⟨howned.keeps, id, List.forall_mem_nil _, fun h' => absurd h' hrequested, fun _ => .inl (by simp),
        fun _ => .inr hfalse, .inl, .inl, fun _ => id, [], (List.append_nil _).symm, ?_⟩
      simp [Call.pins, hserving]
  · simp only [step] at h
    cases h
    refine ⟨howned.keeps, id, ?_, fun hrequested hserving => .inr ⟨hrequested, hserving, rfl⟩,
      fun hactive => ?_, .inl, .inl, .inl, fun _ => List.mem_append_left _, [], (List.append_nil _).symm, ?_⟩
    · intro q hq
      obtain rfl := List.mem_singleton.mp hq
      exact .of_ticket hthis rfl rfl
    · by_cases hserving : s.serving = none
      · exact .inr (.inr ⟨hactive, hserving, rfl⟩)
      · exact .inl hserving
    · simp only [Call.pins, List.flatMap_singleton, List.append_nil, List.append_assoc]
      exact List.Perm.append_left _ List.perm_append_comm
  · simp only [step] at h
    cases h
    refine ⟨howned.keeps, id, ?_, fun hrequested hserving => .inr ⟨hrequested, hserving, rfl⟩,
      fun _ => .inr (.inl ⟨_, List.mem_singleton_self _, rfl⟩), .inl, .inl, .inl, fun _ => List.mem_append_left _, [],
      (List.append_nil _).symm, ?_⟩
    · intro q hq
      obtain rfl := List.mem_singleton.mp hq
      exact .of_ticket hthis rfl rfl
    · simp only [Call.pins, List.flatMap_singleton, List.append_nil, List.append_assoc]
      exact List.Perm.append_left _ List.perm_append_comm
  · simp only [step] at h
    cases h
    obtain ⟨hkeeps, hclosed⟩ := howned.complete c.now
    refine Moves.of_store s.rows hkeeps ?_ (by simp [Call.removes]) (fun h => absurd h hclosed)
      (fun h => absurd h hclosed) rfl
    intro q hq
    obtain rfl := List.mem_singleton.mp hq
    exact .of_ticket hthis rfl rfl
  · obtain ⟨hkeeps, hactive⟩ := howned.receipt "failed" c.receipt false c.now
    have hinactive : ¬ Active o _ := fun h => by cases (hactive h).1
    simp only [step] at h
    split at h
    · cases h
      exact Moves.of_store s.rows hkeeps (List.forall_mem_nil _) (by simp [Call.removes])
        (fun h => absurd h hinactive) (fun h => absurd h hinactive) rfl
    · cases h
      exact Moves.of_rest howned (List.forall_mem_nil _) rfl rfl rfl

/-- A call that marks the endpoint. -/
lemma Moves.mark {q : Call} (howned : Owned o s.store) (hticket : ∀ t ∈ q.ticket, o.Has t) (hfenced : q.hasFenced = false)
    (hserving : s.serving = none ∨ q.removes = true) (hcloses : p.closes = false)
    (hpins : q.pins = p.pins) : Moves o s p { s with requested := true } [q] := by
  refine ⟨howned.keeps, fun _ => rfl, ?_, fun _ h => ?_, fun hactive => ?_, .inl, .inl, .inl, fun _ => id, [],
    (List.append_nil _).symm, ?_⟩
  · intro q' hq'
    rw [List.mem_singleton.mp hq']
    exact ⟨hticket, fun _ => rfl, by simp [hfenced]⟩
  · rcases hserving with hserving | hq
    · exact absurd hserving h
    · exact .inl ⟨q, List.mem_singleton_self _, hq⟩
  · by_cases h : s.serving = none
    · exact .inr (.inr ⟨hactive, h, hcloses⟩)
    · exact .inl h
  · simp [hpins]

/-- A call that returns nil: the endpoint is marked, and sealed if its ticket is saved. -/
lemma Moves.succeed {store : EndpointStore} (hkeeps : Keeps o s.store store) (hrequested : s.requested = true)
    (hsealed : (store.staticOf o.endpointID).isSome → Sealed o store)
    (hactive : Active o store → Active o s.store ∧ p.closes = false) (hremoves : p.removes = false)
    (hpins : p.pins = []) : Moves o s p (Shared.succeed { s with store } o) [] := by
  refine ⟨hkeeps, fun _ => hrequested, List.forall_mem_nil _, fun _ h => .inr ⟨hrequested, h, hremoves⟩, fun h => ?_,
    .inl, fun h => .inl (hactive h).1, fun h => ?_, fun _ => id, [], (List.append_nil _).symm, ?_⟩
  · by_cases hserving : s.serving = none
    · exact .inr (.inr ⟨(hactive h).1, hserving, (hactive h).2⟩)
    · exact .inl hserving
  · simp only [Shared.succeed, Shared.saved, Bool.or_eq_true] at h
    exact h.imp id fun h => ⟨hrequested, hsealed h⟩
  · simp [Shared.succeed, hpins]

end Step

section Step

variable {o : Owner} {s s' : Shared} {p : Call} {c : Choice} {qs : List Call} {observed : List Unit}

/-- **A deactivation of a stored assignment.** -/
lemma moves_deactivation (howned : Owned o s.store) (hknown : Known o s p)
    (hp : p = .deactivating ∨ (∃ t, p = .found t) ∨ (∃ t, p = .asked t) ∨ p = .fenced ∨ (∃ pin, p = .removed pin) ∨
      p = .dropped) (h : step o s p c = some (s', qs, observed)) : Moves o s p s' qs := by
  rcases hp with rfl | ⟨t, rfl⟩ | ⟨t, rfl⟩ | rfl | ⟨pin, rfl⟩ | rfl
  · simp only [step] at h
    split at h
    · cases h
      refine Moves.of_rest howned ?_ rfl rfl rfl
      intro q hq
      obtain rfl := List.mem_singleton.mp hq
      exact .of_ticket (fun _ h => nomatch h) rfl rfl
    · rename_i row hrow
      cases h
      refine Moves.of_rest howned ?_ rfl rfl rfl
      intro q hq
      obtain rfl := List.mem_singleton.mp hq
      exact .of_ticket (fun u hu => Option.some.inj hu ▸ (howned.row row hrow).2.2.2) rfl rfl
  · simp only [step] at h
    cases h
    exact Moves.mark howned hknown.ticket rfl (.inr rfl) rfl rfl
  · obtain ⟨-, hd, hm, hv⟩ := hknown.ticket t rfl
    obtain ⟨store, hfence, hkeeps, hfenced, hactive⟩ := howned.fenceEndpointDeactivation c.now
    simp only [step, hd, hm, hv, hfence] at h
    cases h
    refine Moves.of_store s.rows hkeeps ?_ (fun _ => ⟨_, List.mem_singleton_self _, rfl⟩)
      (fun _ => .inl ⟨_, List.mem_singleton_self _, rfl⟩) (fun h => .inl (hactive h)) rfl
    intro q hq
    obtain rfl := List.mem_singleton.mp hq
    exact ⟨(fun _ h => nomatch h), fun _ => hknown.marked rfl, fun _ => hfenced⟩
  · simp only [step] at h
    cases h
    refine ⟨howned.keeps, id, ?_, fun _ h => absurd rfl h, fun _ => .inr (.inl ⟨_, List.mem_singleton_self _, rfl⟩),
      fun h => absurd rfl h, .inl, .inl, fun _ => id, [], (List.append_nil _).symm, ?_⟩
    · intro q hq
      obtain rfl := List.mem_singleton.mp hq
      exact ⟨(fun _ h => nomatch h), fun _ => hknown.marked rfl, fun _ => hknown.fenced rfl⟩
    · simp [Call.pins]
  · simp only [step] at h
    cases h
    refine ⟨howned.keeps, id, ?_, fun hrequested hserving => .inr ⟨hrequested, hserving, rfl⟩,
      fun _ => .inr (.inl ⟨_, List.mem_singleton_self _, rfl⟩), .inl, .inl, .inl, fun _ => List.mem_append_left _, [],
      (List.append_nil _).symm, ?_⟩
    · intro q hq
      obtain rfl := List.mem_singleton.mp hq
      exact ⟨(fun _ h => nomatch h), fun _ => hknown.marked rfl, fun _ => hknown.fenced rfl⟩
    · simp only [Call.pins, List.flatMap_singleton, List.append_nil, List.append_assoc]
      exact List.Perm.append_left _ List.perm_append_comm
  · obtain ⟨hkeeps, hclosed⟩ := howned.complete c.now
    simp only [step] at h
    cases h
    exact Moves.succeed hkeeps (hknown.marked rfl) (fun _ => .inl (hkeeps.fenced (hknown.fenced rfl)))
      (fun h => absurd h hclosed) rfl rfl

/-- **A deactivation without a stored assignment, and a fence of the deactivation.** -/
lemma moves_fencing (howned : Owned o s.store) (hknown : Known o s p) (hcareful : Careful o s p c)
    (hp : p = .unfound ∨ p = .unfoundAsked ∨ p = .fencing ∨ p = .fencingAsked ∨ p = .fencedAlone)
    (h : step o s p c = some (s', qs, observed)) : Moves o s p s' qs := by
  rcases hp with rfl | rfl | rfl | rfl | rfl
  · simp only [step] at h
    cases h
    exact Moves.mark howned (fun _ h => nomatch h) rfl (.inl hcareful) rfl rfl
  · simp only [step, howned.assignment] at h
    cases h
    refine Moves.succeed howned.keeps (hknown.marked rfl) (fun hsaved => ?_) (fun h => ⟨h, rfl⟩) rfl rfl
    refine hcareful.resolve_left fun hnone => ?_
    rw [hnone] at hsaved
    cases hsaved
  · simp only [step] at h
    cases h
    exact Moves.mark howned (fun _ h => nomatch h) rfl (.inl hcareful) rfl rfl
  · obtain ⟨store, hfence, hkeeps, hfenced, hactive⟩ := howned.fenceEndpointDeactivation c.now
    simp only [step, hfence] at h
    cases h
    refine Moves.of_store s.rows hkeeps ?_ (by simp [Call.removes]) (fun h => .inr ⟨hactive h, rfl⟩)
      (fun h => .inl (hactive h)) rfl
    intro q hq
    obtain rfl := List.mem_singleton.mp hq
    exact ⟨(fun _ h => nomatch h), fun _ => hknown.marked rfl, fun _ => hfenced⟩
  · simp only [step, howned.incarnation] at h
    cases h
    exact Moves.succeed howned.keeps (hknown.marked rfl) (fun _ => .inl (hknown.fenced rfl)) (fun h => ⟨h, rfl⟩) rfl rfl

/-- **One step of a call.** -/
theorem moves_step (howned : Owned o s.store) (hknown : Known o s p) (hcareful : Careful o s p c)
    (h : step o s p c = some (s', qs, observed)) : Moves o s p s' qs := by
  cases p with
  | assigning t => exact moves_admission howned hknown ⟨t, .inl rfl⟩ h
  | recorded t => exact moves_admission howned hknown ⟨t, .inr (.inl rfl)⟩ h
  | looked t => exact moves_admission howned hknown ⟨t, .inr (.inr (.inl rfl))⟩ h
  | reserved t => exact moves_admission howned hknown ⟨t, .inr (.inr (.inr rfl))⟩ h
  | saved t => exact moves_pinning howned hknown ⟨t, 0, .inl rfl⟩ h
  | pinned t pin => exact moves_pinning howned hknown ⟨t, pin, .inr (.inl rfl)⟩ h
  | signed t pin => exact moves_pinning howned hknown ⟨t, pin, .inr (.inr rfl)⟩ h
  | ready t pin => exact moves_publication howned hknown hcareful ⟨t, pin, .inl rfl⟩ h
  | refused t pin => exact moves_publication howned hknown hcareful ⟨t, pin, .inr (.inl rfl)⟩ h
  | withdrawn t pin => exact moves_publication howned hknown hcareful ⟨t, pin, .inr (.inr (.inl rfl))⟩ h
  | completing t => exact moves_publication howned hknown hcareful ⟨t, 0, .inr (.inr (.inr (.inl rfl)))⟩ h
  | failing t => exact moves_publication howned hknown hcareful ⟨t, 0, .inr (.inr (.inr (.inr rfl)))⟩ h
  | deactivating => exact moves_deactivation howned hknown (.inl rfl) h
  | found t => exact moves_deactivation howned hknown (.inr (.inl ⟨t, rfl⟩)) h
  | asked t => exact moves_deactivation howned hknown (.inr (.inr (.inl ⟨t, rfl⟩))) h
  | fenced => exact moves_deactivation howned hknown (.inr (.inr (.inr (.inl rfl)))) h
  | removed pin => exact moves_deactivation howned hknown (.inr (.inr (.inr (.inr (.inl ⟨pin, rfl⟩))))) h
  | dropped => exact moves_deactivation howned hknown (.inr (.inr (.inr (.inr (.inr rfl))))) h
  | unfound => exact moves_fencing howned hknown hcareful (.inl rfl) h
  | unfoundAsked => exact moves_fencing howned hknown hcareful (.inr (.inl rfl)) h
  | fencing => exact moves_fencing howned hknown hcareful (.inr (.inr (.inl rfl))) h
  | fencingAsked => exact moves_fencing howned hknown hcareful (.inr (.inr (.inr (.inl rfl)))) h
  | fencedAlone => exact moves_fencing howned hknown hcareful (.inr (.inr (.inr (.inr rfl)))) h

end Step

/-! ## Runs -/

/-- What is served under a request is about to be taken down, what is active is served or about to be closed, a
successful deactivation has marked and sealed the endpoint, and every pin was released, or is served, or is held by one
call. -/
structure Accounted (o : Owner) (c : Config) : Prop where
  store : Owned o c.shared.store
  known : ∀ p ∈ c.procs, Known o c.shared p
  removes : c.shared.requested = true → c.shared.serving ≠ none → ∃ p ∈ c.procs, p.removes = true
  active : Active o c.shared.store → c.shared.serving ≠ none ∨ ∃ p ∈ c.procs, p.closes = true
  deactivated : c.shared.deactivated = true → c.shared.requested = true ∧ Sealed o c.shared.store
  pins : (c.shared.released ++ c.shared.serving.toList ++ c.procs.flatMap Call.pins).Perm (List.range c.shared.pinned)

/-- The endpoint is marked, sealed, not served and not active. -/
structure Retired (o : Owner) (s : Shared) : Prop where
  requested : s.requested = true
  sealed : Sealed o s.store
  serving : s.serving = none
  inactive : ¬ Active o s.store

section Runs

variable {o : Owner} {s s' : Shared} {p : Call} {qs pre post : List Call}

lemma accounted_start (o : Owner) : Accounted o start where
  store := owned_empty o
  known := List.forall_mem_nil _
  removes h := by cases h
  active := fun ⟨_, h, _⟩ => nomatch h
  deactivated h := by cases h
  pins := List.Perm.refl _

/-- What is known of the other calls stays known. -/
lemma Known.move {q : Call} (h : Known o s q) (hmoves : Moves o s p s' qs) : Known o s' q :=
  ⟨h.ticket, fun hq => hmoves.requested (h.marked hq), fun hq => hmoves.store.fenced (h.fenced hq)⟩

/-- A call of a kind is still there, unless it is the one that stepped and left none. -/
lemma exists_of_step {f : Call → Bool} (h : ∃ q ∈ pre ++ p :: post, f q = true) (hkind : f p = false) :
    ∃ q ∈ pre ++ qs ++ post, f q = true := by
  obtain ⟨q, hq, hf⟩ := h
  refine ⟨q, ?_, hf⟩
  have hne : q ≠ p := by
    rintro rfl
    rw [hkind] at hf
    cases hf
  rw [List.mem_append, List.mem_cons] at hq
  rcases hq with hq | rfl | hq
  · simp [hq]
  · exact absurd rfl hne
  · simp [hq]

/-- **One step** keeps the account. -/
lemma Accounted.move (h : Accounted o ⟨s, pre ++ p :: post⟩) (hmoves : Moves o s p s' qs) :
    Accounted o ⟨s', pre ++ qs ++ post⟩ where
  store := hmoves.store.owned
  known q hq := by
    rw [List.append_assoc, List.mem_append, List.mem_append] at hq
    rcases hq with hq | hq | hq
    · exact (h.known q (List.mem_append_left _ hq)).move hmoves
    · exact hmoves.known q hq
    · exact (h.known q (List.mem_append_right _ (List.mem_cons_of_mem _ hq))).move hmoves
  removes hrequested hserving := by
    rcases hmoves.removes hrequested hserving with ⟨q, hq, hf⟩ | ⟨hrequested', hserving', hp⟩
    · exact ⟨q, by simp [hq], hf⟩
    · exact exists_of_step (h.removes hrequested' hserving') hp
  active hactive := by
    rcases hmoves.active hactive with hserving | ⟨q, hq, hf⟩ | ⟨hactive', hserving, hp⟩
    · exact .inl hserving
    · exact .inr ⟨q, by simp [hq], hf⟩
    · exact .inr (exists_of_step ((h.active hactive').resolve_left (fun hs => hs hserving)) hp)
  deactivated hdone := by
    rcases hmoves.deactivated hdone with hdone | hdone
    · exact ⟨hmoves.requested (h.deactivated hdone).1, hmoves.store.sealed (h.deactivated hdone).2⟩
    · exact hdone
  pins := by
    obtain ⟨fresh, hfresh, hperm⟩ := hmoves.pins
    have hpins := h.pins
    dsimp only at hpins ⊢
    rw [hfresh]
    rw [List.perm_iff_count] at hpins hperm ⊢
    intro pin
    have hbefore := hpins pin
    have hstep := hperm pin
    simp only [List.count_append, List.flatMap_append, List.flatMap_cons] at hbefore hstep ⊢
    omega

end Runs

section Runs

variable {o : Owner} {s s' : Shared} {p : Call} {c : Config} {qs : List Call}

/-- A retired endpoint stays retired. -/
lemma Retired.move (h : Retired o s) (hmoves : Moves o s p s' qs) : Retired o s' where
  requested := hmoves.requested h.requested
  sealed := hmoves.store.sealed h.sealed
  serving := by
    by_contra hserving
    rcases hmoves.serves hserving with hserving | hrequested
    · exact hserving h.serving
    · rw [h.requested] at hrequested
      cases hrequested
  inactive hactive := (hmoves.activates hactive).elim h.inactive fun hopen => hopen h.sealed

/-- Every step of a call on a retired endpoint is careful. -/
lemma Retired.careful (h : Retired o s) (ch : Choice) : Careful o s p ch := by
  unfold Careful
  split
  · exact h.serving
  · exact h.serving
  · exact .inr h.sealed
  · exact .inl h.requested
  · trivial

/-- **One event** of a careful run. -/
lemma accounted_next {e : Pool.Event Choice Request ((String × String) × ℤ × ℤ)} (h : Accounted o c)
    (hcareful : ∀ i ch p, e = .run i ch → c.procs[i]? = some p → Careful o c.shared p ch) :
    Accounted o (Machine.next (agent o).serve c e) ∧
      (Retired o c.shared → Retired o (Machine.next (agent o).serve c e).shared) ∧
      ∀ pin ∈ c.shared.released, pin ∈ (Machine.next (agent o).serve c e).shared.released := by
  unfold Machine.next
  rcases (agent o).serve_cases c e with hsame | ⟨r, q, rfl, hspawn, hnext⟩ | ⟨i, ch, pre, p, post, s', qs, observed, rfl,
    hprocs, hp, hstep, hnext⟩ | ⟨x, rfl, hnext⟩
  · rw [hsame]
    exact ⟨h, id, fun _ => id⟩
  · rw [hnext]
    have hnew : Known o c.shared q ∧ q.pins = [] := by
      cases r with
      | assign t =>
        simp only [agent] at hspawn
        split at hspawn
        · rename_i ht
          cases hspawn
          exact ⟨.of_ticket (fun u hu => Option.some.inj hu ▸ ht) rfl rfl, rfl⟩
        · cases hspawn
      | deactivate =>
        cases hspawn
        exact ⟨.of_ticket (fun _ h => nomatch h) rfl rfl, rfl⟩
      | fence =>
        cases hspawn
        exact ⟨.of_ticket (fun _ h => nomatch h) rfl rfl, rfl⟩
    refine ⟨⟨h.store, ?_, ?_, ?_, h.deactivated, ?_⟩, id, fun _ => id⟩
    · intro p hp
      rcases List.mem_append.mp hp with hp | hp
      · exact h.known p hp
      · exact List.mem_singleton.mp hp ▸ hnew.1
    · intro hrequested hserving
      obtain ⟨p, hp, hf⟩ := h.removes hrequested hserving
      exact ⟨p, List.mem_append_left _ hp, hf⟩
    · intro hactive
      exact (h.active hactive).imp id fun ⟨p, hp, hf⟩ => ⟨p, List.mem_append_left _ hp, hf⟩
    · simpa [hnew.2] using h.pins
  · rw [hnext]
    obtain ⟨s, procs⟩ := c
    dsimp only at hprocs hp hstep hcareful ⊢
    subst hprocs
    have hmoves : Moves o s p s' qs :=
      moves_step h.store (h.known p (by simp)) (hcareful i ch p rfl hp) hstep
    exact ⟨h.move hmoves, fun hretired => hretired.move hmoves, hmoves.released⟩
  · rw [hnext]
    have hknown : ∀ p ∈ c.procs, Known o ((agent o).env c.shared x) p := fun p hp =>
      ⟨(h.known p hp).ticket, (h.known p hp).marked, (h.known p hp).fenced⟩
    exact ⟨⟨h.store, hknown, h.removes, h.active, h.deactivated, h.pins⟩,
      fun hretired => ⟨hretired.requested, hretired.sealed, hretired.serving, hretired.inactive⟩, fun _ => id⟩

/-- **Careful runs keep the account.** -/
theorem accounted_run {events : List (Pool.Event Choice Request ((String × String) × ℤ × ℤ))}
    (h : Accounted o c) (hcareful : Pool.MeetsAt (agent o) (Careful o) c events) :
    Accounted o (Machine.run (agent o).serve c events) := by
  induction events generalizing c with
  | nil => exact h
  | cons e events ih =>
    rw [Machine.run_cons]
    have hnext := accounted_next h (e := e) fun i ch p he hp => hcareful [] i ch events p (by simp [he]) hp
    refine ih hnext.1 fun before i ch after p heq hp => ?_
    exact hcareful (e :: before) i ch after p (by rw [heq, List.cons_append]) hp

/-- Any run from a retired endpoint leaves it retired, and releases no pin for the second time. -/
lemma Retired.run (h : Accounted o c) (hretired : Retired o c.shared)
    (events : List (Pool.Event Choice Request ((String × String) × ℤ × ℤ))) :
    Accounted o (Machine.run (agent o).serve c events) ∧ Retired o (Machine.run (agent o).serve c events).shared ∧
      ∀ pin ∈ c.shared.released, pin ∈ (Machine.run (agent o).serve c events).shared.released := by
  induction events generalizing c with
  | nil => exact ⟨h, hretired, fun _ => id⟩
  | cons e events ih =>
    rw [Machine.run_cons]
    obtain ⟨hnext, hstays, hreleased⟩ := accounted_next h (e := e) fun _ ch _ _ _ => hretired.careful ch
    obtain ⟨hrun, hretired', hreleased'⟩ := ih hnext (hstays hretired)
    exact ⟨hrun, hretired', fun pin hpin => hreleased' pin (hreleased pin hpin)⟩

/-- **A deactivated static endpoint is never served**: in a careful run, when all calls have returned and a `Deactivate`
or a `FenceDeactivation` has returned nil with the ticket saved, the endpoint is not served, its row is not active, and
every pin was released once; and this is so in every later state, whatever calls arrive.

**Proof sketch.** No call is in flight that would take a served endpoint down or close an active row, so there is
none; all pins are with the released ones. A step of a call keeps this, since the endpoint is marked and sealed. -/
theorem retired_for_good (o : Owner) (before after : List (Pool.Event Choice Request ((String × String) × ℤ × ℤ)))
    (hcareful : Pool.MeetsAt (agent o) (Careful o) start before)
    (hreturned : (Machine.run (agent o).serve start before).procs = [])
    (hdone : (Machine.run (agent o).serve start before).shared.deactivated = true) :
    let c := Machine.run (agent o).serve start (before ++ after)
    c.shared.serving = none ∧ (∀ row, c.shared.store.staticOf o.endpointID = some row → row.active = false) ∧
      ∀ pin < (Machine.run (agent o).serve start before).shared.pinned, c.shared.released.count pin = 1 := by
  have h := accounted_run (accounted_start o) hcareful
  rw [Machine.run_append]
  generalize Machine.run (agent o).serve start before = b at h hreturned hdone ⊢
  obtain ⟨hrequested, hsealed⟩ := h.deactivated hdone
  have hserving : b.shared.serving = none := by
    by_contra hserving
    obtain ⟨p, hp, -⟩ := h.removes hrequested hserving
    rw [hreturned] at hp
    cases hp
  have hinactive : ¬ Active o b.shared.store := by
    intro hactive
    rcases h.active hactive with h' | ⟨p, hp, -⟩
    · exact h' hserving
    · rw [hreturned] at hp
      cases hp
  have hreleased : ∀ pin < b.shared.pinned, pin ∈ b.shared.released := by
    intro pin hpin
    have hpins := h.pins
    rw [hserving, hreturned] at hpins
    simpa using hpins.mem_iff.mpr (List.mem_range.mpr hpin)
  obtain ⟨hrun, hretired, hlater⟩ := Retired.run h ⟨hrequested, hsealed, hserving, hinactive⟩ after
  refine ⟨hretired.serving, fun row hrow => ?_, fun pin hpin => ?_⟩
  · by_contra hactive
    exact hretired.inactive ⟨row, hrow, by simpa using hactive⟩
  · refine List.count_eq_one_of_mem ?_ (hlater pin (hreleased pin hpin))
    have hnodup := hrun.pins.nodup_iff.mpr List.nodup_range
    rw [List.append_assoc] at hnodup
    exact (List.nodup_append.mp hnodup).1

end Runs

/-! ## Runs of one endpoint -/

instance (o : Owner) (s : EndpointStore) : Decidable (Sealed o s) := inferInstanceAs (Decidable (_ ∨ _))

instance (o : Owner) (s : Shared) (p : Call) (c : Choice) : Decidable (Careful o s p c) := by
  unfold Careful
  split <;> infer_instance

/-- The endpoint of a static ticket. -/
def owner : Owner :=
  ⟨Durable.staticTicket.endpointID, "site", "miner", "validator", by decide⟩

/-- An assignment of the endpoint that succeeds at every step. -/
def assigned : List (Pool.Event Choice Request ((String × String) × ℤ × ℤ)) :=
  .arrive (.assign Durable.staticTicket) :: List.replicate 7 (.run 0 ⟨0, 0, 0, true, ""⟩)

/-- A deactivation after it retires the endpoint for good. -/
theorem retired_after_deactivation :
    ∃ before, (Machine.run (agent owner).serve start before).shared.pinned = 1 ∧ ∀ after,
      let c := Machine.run (agent owner).serve start (before ++ after)
      c.shared.serving = none ∧
        (∀ row, c.shared.store.staticOf owner.endpointID = some row → row.active = false) ∧
          ∀ pin < (Machine.run (agent owner).serve start before).shared.pinned, c.shared.released.count pin = 1 :=
  ⟨assigned ++ .arrive .deactivate :: List.replicate 6 (.run 0 ⟨0, 0, 0, true, ""⟩), by decide, fun after =>
    retired_for_good owner _ after (Pool.meetsAt_of_meets (by decide)) (by decide) (by decide)⟩

/-- **A fenced endpoint that stays served.** The fence of the deactivation comes when the assignment has returned: it
marks the endpoint, writes the fence, finds no incarnation and returns nil. -/
theorem served_after_fence :
    ∃ before, (Machine.run (agent owner).serve start before).procs = [] ∧
      (Machine.run (agent owner).serve start before).shared.deactivated = true ∧
        (Machine.run (agent owner).serve start before).shared.serving = some 0 :=
  ⟨assigned ++ .arrive .fence :: List.replicate 3 (.run 0 ⟨0, 0, 0, true, ""⟩), by decide, by decide, by decide⟩

end StaticRetire

end Misscomputer
