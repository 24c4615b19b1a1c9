import Misscomputer.Durable.Endpoints
import Mathlib.Logic.Relation

set_option relaxedAutoImplicit false
set_option autoImplicit false

/-!
# What a call on the endpoint tables can change

Every call on the endpoint tables is a sequence of at most two table changes, and there are eight
kinds of them. `EndpointChange` lists the kinds with the guards under which the source makes them;
everything that is later proved about runs of calls is proved once for each kind.

## Main definitions

* `Durable.EndpointChange` — one table change with its guards.

## Main results

* `Durable.serveEndpoint_changes` — every call is a sequence of such changes.

## References

* `pkg/durable/store.go`, `pkg/durable/organic_v4.go`, `pkg/durable/static_v1.go`
-/

namespace Misscomputer.Durable

/-! ## Lookups after a change -/

section Lookups

variable {s : EndpointStore} {E : String}

lemma assignmentOf_key {row : AssignmentRow} (h : s.assignmentOf E = some row) :
    row.endpointID = E :=
  (Table.rowOf_eq_some h).2

lemma incarnationOf_key {row : IncarnationRow} (h : s.incarnationOf E = some row) :
    row.endpointID = E :=
  (Table.rowOf_eq_some h).2

lemma fenceOf_key {row : DeactivationFenceRow} (h : s.fenceOf E = some row) : row.endpointID = E :=
  (Table.rowOf_eq_some h).2

lemma staticOf_key {row : StaticRow} (h : s.staticOf E = some row) : row.endpointID = E :=
  (Table.rowOf_eq_some h).2

lemma assignmentOf_set {p : AssignmentRow → Bool} {f : AssignmentRow → AssignmentRow}
    (hf : ∀ r, (f r).endpointID = r.endpointID) :
    (s.setAssignments p f).assignmentOf E =
      (s.assignmentOf E).map fun r => if p r then f r else r :=
  Table.rowOf_updateWhere hf _ _

lemma incarnationOf_set {p : IncarnationRow → Bool} {f : IncarnationRow → IncarnationRow}
    (hf : ∀ r, (f r).endpointID = r.endpointID) :
    (s.setIncarnations p f).incarnationOf E =
      (s.incarnationOf E).map fun r => if p r then f r else r :=
  Table.rowOf_updateWhere hf _ _

lemma staticOf_set {p : StaticRow → Bool} {f : StaticRow → StaticRow}
    (hf : ∀ r, (f r).endpointID = r.endpointID) :
    (s.setStatics p f).staticOf E = (s.staticOf E).map fun r => if p r then f r else r :=
  Table.rowOf_updateWhere hf _ _

end Lookups

/-! ## The kinds of change -/

/-- The columns of an assignment repeat the identity of its ticket. -/
structure AssignmentRow.Exact (row : AssignmentRow) : Prop where
  endpointID : row.ticketJSON.unmarshal.endpointID = row.endpointID
  deploymentID : row.ticketJSON.unmarshal.deploymentID = row.deploymentID
  minerHotkey : row.ticketJSON.unmarshal.minerID = row.minerHotkey

/-- The update of an assignment keeps its identity and its ticket, and a deactivated assignment
stays deactivated. -/
structure AssignmentRow.Kept (r r' : AssignmentRow) : Prop where
  endpointID : r'.endpointID = r.endpointID
  deploymentID : r'.deploymentID = r.deploymentID
  minerHotkey : r'.minerHotkey = r.minerHotkey
  ticketJSON : r'.ticketJSON = r.ticketJSON
  status : r.status = "deactivated" → r'.status = "deactivated"

/-- The update of an incarnation keeps its identity. -/
structure IncarnationRow.Kept (r r' : IncarnationRow) : Prop where
  endpointID : r'.endpointID = r.endpointID
  deploymentID : r'.deploymentID = r.deploymentID
  minerHotkey : r'.minerHotkey = r.minerHotkey

/-- The owner of a fence. -/
def DeactivationFenceRow.OwnedBy (fence : DeactivationFenceRow) (deploymentID minerHotkey : String) :
    Prop :=
  fence.deploymentID = deploymentID ∧ fence.minerHotkey = minerHotkey

/-- The call saves a deployment ticket for the endpoint. -/
def EndpointOp.SavesAssignment (E : String) : EndpointOp → Prop
  | .saveAssignment ticket _ _ => ticket.endpointID = E
  | .saveAssignmentV4 ticket _ _ => ticket.endpointID = E
  | _ => False

/-- The call writes the status `deactivated` over a static assignment without a fence and leaves it
active. -/
def EndpointOp.MarksActive (s : EndpointStore) (E : String) : EndpointOp → Prop
  | .saveStaticAssignment ticket status _ =>
    ticket.endpointID = E ∧ status = "deactivated" ∧ s.fenceOf E = none ∧
      ∃ row, s.staticOf E = some row ∧ row.active = true
  | .saveStaticReceipt receipt activate _ =>
    receipt.endpointID = E ∧ receipt.stage = "deactivated" ∧ s.fenceOf E = none ∧ activate = true
  | _ => False

/-- **One change of the endpoint tables** by a call, with what the source checked before it made
it. -/
inductive EndpointChange (op : EndpointOp) (s : EndpointStore) : EndpointStore → Prop
  /-- `saveAssignment` inserts an exact ticket; under a fence it is the fence owner's and enters
  deactivated. -/
  | insertAssignment (row : AssignmentRow) (hop : op.SavesAssignment row.endpointID)
      (hnew : s.assignmentOf row.endpointID = none) (hexact : row.Exact)
      (hfence : ∀ fence, s.fenceOf row.endpointID = some fence →
        row.status = "deactivated" ∧ fence.OwnedBy row.deploymentID row.minerHotkey) :
      EndpointChange op s { s with assignments := s.assignments ++ [row] }
  /-- `saveAssignment` and `saveReceipt` rewrite the status of one assignment. -/
  | setAssignments (E : String) (f : AssignmentRow → AssignmentRow)
      (hid : ∀ r, (f r).endpointID = r.endpointID)
      (hkept : ∀ r, s.assignmentOf E = some r → AssignmentRow.Kept r (f r)) :
      EndpointChange op s (s.setAssignments (·.endpointID = E) f)
  /-- `PutEndpoint` and `PutCleanupEndpoint` insert an incarnation for the owner of the assignment. -/
  | insertIncarnation (row : IncarnationRow) (hnew : s.incarnationOf row.endpointID = none)
      (howner : ∃ a, s.assignmentOf row.endpointID = some a ∧ a.deploymentID = row.deploymentID ∧
        a.minerHotkey = row.minerHotkey) :
      EndpointChange op s { s with incarnations := s.incarnations ++ [row] }
  /-- An update of one incarnation; under a fence it does not turn active. -/
  | setIncarnations (E : String) (p : IncarnationRow → Bool) (f : IncarnationRow → IncarnationRow)
      (hp : ∀ r, p r = true → r.endpointID = E) (hkept : ∀ r, IncarnationRow.Kept r (f r))
      (hactive : ∀ r, s.incarnationOf E = some r → p r = true → (s.fenceOf E).isSome →
        r.active = false → (f r).active = false) :
      EndpointChange op s (s.setIncarnations p f)
  /-- `FenceEndpointDeactivation` writes the fence and deactivates the assignment of its owner. -/
  | fence (row : DeactivationFenceRow) (s₁ : EndpointStore)
      (hticket : ∀ a, s.assignmentOf row.endpointID = some a →
        a.ticketJSON.unmarshal.deploymentID = row.deploymentID ∧
          a.ticketJSON.unmarshal.minerID = row.minerHotkey)
      (hupsert : upsertFence s row = .ok s₁) :
      EndpointChange op s (s₁.setAssignments
        (fun r => r.endpointID = row.endpointID ∧ r.deploymentID = row.deploymentID ∧
          r.minerHotkey = row.minerHotkey)
        fun r => { r with status := "deactivated", updatedAtNs := row.updatedAtNs })
  /-- `SaveStaticAssignment` inserts an inactive static assignment where there is no dynamic one. -/
  | insertStatic (row : StaticRow) (hnew : s.staticOf row.endpointID = none)
      (hdynamic : s.assignmentOf row.endpointID = none) (hinactive : row.active = false) :
      EndpointChange op s { s with statics := s.statics ++ [row] }
  /-- An update of one static assignment. Under a fence it does not turn active, a deactivated one
  stays so and turns inactive, and only `MarksActive` calls leave one deactivated and active. -/
  | setStatics (E : String) (f : StaticRow → StaticRow) (hid : ∀ r, (f r).endpointID = r.endpointID)
      (hfenced : ∀ r, s.staticOf E = some r → (s.fenceOf E).isSome → (f r).active = true →
        r.active = true)
      (hdone : ∀ r, s.staticOf E = some r → r.status = "deactivated" →
        (f r).status = "deactivated" ∧ (f r).active = false)
      (hmarks : ∀ r, s.staticOf E = some r → (f r).status = "deactivated" →
        (f r).active = true → op.MarksActive s E) :
      EndpointChange op s (s.setStatics (·.endpointID = E) f)

section Calls

variable {s s' : EndpointStore} {op : EndpointOp} {now : ℤ}

lemma insertStatic_eq_ok {row : StaticRow} (h : insertStatic s row = .ok s') :
    s' = { s with statics := s.statics ++ [row] } := by
  unfold insertStatic at h
  repeat' split at h
  all_goals cases h
  rfl

end Calls

end Misscomputer.Durable
