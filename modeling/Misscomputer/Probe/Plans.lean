import Misscomputer.Organic.Contracts
import Misscomputer.Static.Observation

set_option relaxedAutoImplicit false
set_option autoImplicit false

/-!
# The hidden plans of an epoch

A validator probes every published endpoint at instants that only the holder of its seed can tell. The
instants, the nonces and the targets are HMAC outputs, one context for each endpoint and each slice of the
epoch. One planner serves the organic manifest, one the verified static indexes.

## Main definitions

* `Probe.PlannedProbe`, `Probe.PlannedStaticProbe` — the records of a plan.
* `Probe.Schedule` — an epoch, its length and its slices.
* `Probe.planHiddenProbes` — the plan of a manifest.
* `Probe.hiddenChoice`, `Probe.planStaticHiddenProbes` — the plan of the verified indexes.

## Implementation notes

`hmac.new(key, message, "sha256").digest()` is a parameter. Its outputs have 32 bytes by their type.

## References

* `src/misscomputer_subnet/organic_probe.py` (`plan_hidden_probes`)
* `src/misscomputer_subnet/static_probe.py` (`plan_static_hidden_probes`)
-/

namespace Misscomputer

namespace Probe

open Contract
open Except (reject)
open Organic (ActiveAssignmentManifestV2 OrganicDeploymentAssignment OrganicAssignedReplica)
open StaticIndex (Method ResponseKind ResponseError AuthenticatedIndex StaticEndpointTarget)
open StaticProbe (ProbeKind)

/-! ## Records -/

/-- `_MAX_EPOCH_MILLIS`. -/
def maxEpochMillis : ℤ := 253402300799999

/-- `PlannedProbe`. -/
structure PlannedProbe where
  deploymentID : String
  endpointID : String
  generation : ℤ
  method : Method
  path : String
  probeIndex : ℤ
  fireAtMillis : ℤ
  nonce : String
deriving DecidableEq

/-- The values of the contract. -/
def PlannedProbe.Valid (p : PlannedProbe) : Prop :=
  routeLabel p.deploymentID ∧ Contract.endpointID p.endpointID ∧ positiveCount p.generation ∧ healthPath p.path ∧
    (0 ≤ p.probeIndex ∧ p.probeIndex ≤ 63) ∧ (0 ≤ p.fireAtMillis ∧ p.fireAtMillis ≤ maxEpochMillis) ∧
    hex64 p.nonce

instance (p : PlannedProbe) : Decidable p.Valid := by
  unfold PlannedProbe.Valid
  infer_instance

/-- `MAX_FILE_BYTES`. -/
def maxFileBytes : ℤ := 16777216

/-- `MAX_ADMISSION_REQUESTS`. -/
def maxAdmissionRequests : ℤ := 2 * 4096 + 3

/-- `PlannedStaticProbe`. -/
structure PlannedStaticProbe where
  probeKind : ProbeKind
  deploymentID : String
  siteDigest : String
  endpointID : String
  generation : ℤ
  method : Method
  path : String
  expectedKind : ResponseKind
  expectedContentLength : ℤ
  probeIndex : ℤ
  /-- `None` for an admission request. -/
  fireAtMillis : Option ℤ
  nonce : String
deriving DecidableEq

/-- The values of the contract. -/
def PlannedStaticProbe.Valid (p : PlannedStaticProbe) : Prop :=
  dnsLabel p.deploymentID ∧ sha256Digest p.siteDigest ∧ Contract.endpointID p.endpointID ∧ positiveCount p.generation ∧
    healthPath p.path ∧ (0 ≤ p.expectedContentLength ∧ p.expectedContentLength ≤ maxFileBytes) ∧
    (0 ≤ p.probeIndex ∧ p.probeIndex ≤ maxAdmissionRequests) ∧
    (∀ fireAt ∈ p.fireAtMillis, 0 ≤ fireAt ∧ fireAt ≤ maxEpochMillis) ∧ hex64 p.nonce

instance (p : PlannedStaticProbe) : Decidable p.Valid := by
  unfold PlannedStaticProbe.Valid
  infer_instance

/-- What a planner raises. -/
inductive PlanError
  /-- `ValueError`. -/
  | value (text : String)
  /-- `ValidationError`. -/
  | validation
  /-- What `expected_static_response` raises. -/
  | response (error : ResponseError)
deriving DecidableEq

/-! ## The slices of an epoch -/

/-- What both planners are told of the epoch. -/
structure Schedule where
  epochIndex : ℤ
  epochSeconds : ℤ
  probesPerEndpoint : ℤ

namespace Schedule

/-- `epoch_millis`. -/
def epochMillis (s : Schedule) : ℤ := s.epochSeconds * 1000

/-- `epoch_start`. -/
def epochStart (s : Schedule) : ℤ := s.epochIndex * s.epochMillis

/-- The end of the epoch. -/
def epochEnd (s : Schedule) : ℤ := (s.epochIndex + 1) * s.epochMillis

/-- `slot`. -/
def slot (s : Schedule) : ℤ := s.epochMillis / s.probesPerEndpoint

/-- `range(probes_per_endpoint)`. -/
def positions (s : Schedule) : List ℕ := List.range s.probesPerEndpoint.toNat

/-- What both planners accept of the epoch. -/
def Accepted (s : Schedule) : Prop :=
  ((60 ≤ s.epochSeconds ∧ s.epochSeconds ≤ 3600) ∧ 1 ≤ s.probesPerEndpoint ∧ s.probesPerEndpoint ≤ 16) ∧
    0 ≤ s.epochIndex

instance (s : Schedule) : Decidable s.Accepted := by
  unfold Accepted
  infer_instance

/-- The checks of the schedule, the same in both planners. -/
def check (s : Schedule) : Except PlanError Unit := do
  reject (¬ ((60 ≤ s.epochSeconds ∧ s.epochSeconds ≤ 3600) ∧ 1 ≤ s.probesPerEndpoint ∧ s.probesPerEndpoint ≤ 16))
    (.value "probe_schedule_invalid")
  reject (s.epochIndex < 0) (.value "epoch_index_invalid")

end Schedule

/-- `PROBE_SEED_BYTES`. -/
def probeSeedBytes : ℕ := 32

/-- `_validate_seed`. -/
def validateSeed (seed : List UInt8) : Except PlanError Unit :=
  reject (seed.length ≠ probeSeedBytes) (.value "probe_seed_invalid")

/-- `int.from_bytes(b, "big")`. -/
def fromBytes (b : List UInt8) : ℕ := b.foldl (fun n byte => n * 256 + byte.toNat) 0

/-- An output of HMAC-SHA256. -/
abbrev Mac := Vector UInt8 32

/-- `.hex()` of bytes. -/
def hex (b : List UInt8) : String := String.ofList (Hex.encode (b.map UInt8.toNat))

/-- `fire_at` of a slice. -/
def Schedule.fireAt (s : Schedule) (position : ℕ) (timing : Mac) : ℤ :=
  s.epochStart + position * s.slot + fromBytes (timing.toList.take 8) % s.slot

/-- One pass over the draws: a draw outside the horizon adds nothing, an error ends the pass. -/
def planEach {D P : Type} (probe : D → Except PlanError (Option P)) (draws : List D) : Except PlanError (List P) := do
  let planned ← draws.mapM probe
  return planned.reduceOption

/-! ## The plan of a manifest -/

section Organic

variable (hmac : List UInt8 → List UInt8 → Mac)

/-- `_SCHEDULE_DOMAIN`. -/
def scheduleDomain : String := "miss.computer/misscomputer-subnet/organic-probe-schedule/v1"

/-- `_NONCE_DOMAIN`. -/
def nonceDomain : String := "miss.computer/misscomputer-subnet/organic-probe-nonce/v1"

/-- `domain + b"\x00" + canonical_json(context)`. -/
def message (domain : String) (context : List (String × Json)) : List UInt8 :=
  Text.bytes domain.toList ++ 0 :: canonicalJson (document context)

/-- One place of an organic plan. -/
structure Draw where
  deployment : OrganicDeploymentAssignment
  replica : OrganicAssignedReplica
  position : ℕ
deriving DecidableEq

/-- The places of a manifest, in the order of the three loops. -/
def draws (s : Schedule) (manifest : ActiveAssignmentManifestV2) : List Draw :=
  manifest.deployments.flatMap fun deployment => deployment.replicas.flatMap fun replica =>
    s.positions.map fun index => ⟨deployment, replica, index⟩

/-- `context`. -/
def Draw.context (d : Draw) (s : Schedule) (validatorHotkey manifestDigest : String) : List (String × Json) :=
  [("epoch_index", .num s.epochIndex), ("epoch_seconds", .num s.epochSeconds),
    ("endpoint_id", text d.replica.endpointID), ("generation", .num d.replica.generation),
    ("manifest_digest_sha256", text manifestDigest), ("probe_index", .num d.position),
    ("validator_hotkey", text validatorHotkey)]

/-- `organic_manifest_effective_expires_at_epoch` and `issued_at_epoch`, in milliseconds. -/
def InHorizon (manifest : ActiveAssignmentManifestV2) (fireAt : ℤ) : Prop :=
  manifest.issuedAtEpoch * 1000 ≤ fireAt ∧ fireAt < manifest.effectiveExpiresAtEpoch * 1000

instance (manifest : ActiveAssignmentManifestV2) (fireAt : ℤ) : Decidable (InHorizon manifest fireAt) :=
  inferInstanceAs (Decidable (_ ∧ _))

/-- `fire_at` of a place. -/
def Draw.fireAt (d : Draw) (seed : List UInt8) (validatorHotkey : String) (s : Schedule) (manifestDigest : String) : ℤ :=
  s.fireAt d.position (hmac seed (message scheduleDomain (d.context s validatorHotkey manifestDigest)))

/-- The record of a place. -/
def Draw.planned (d : Draw) (seed : List UInt8) (validatorHotkey : String) (s : Schedule) (manifestDigest : String) :
    PlannedProbe where
  deploymentID := d.deployment.deploymentID
  endpointID := d.replica.endpointID
  generation := d.replica.generation
  method := d.deployment.health.method
  path := d.deployment.health.path
  probeIndex := d.position
  fireAtMillis := d.fireAt hmac seed validatorHotkey s manifestDigest
  nonce := hex (hmac seed (message nonceDomain (d.context s validatorHotkey manifestDigest))).toList

/-- The body of the loops. -/
def Draw.probe (seed : List UInt8) (validatorHotkey : String) (s : Schedule) (manifest : ActiveAssignmentManifestV2)
    (d : Draw) : Except PlanError (Option PlannedProbe) := do
  if InHorizon manifest (d.fireAt hmac seed validatorHotkey s manifest.manifestDigestSha256) then
    let planned := d.planned hmac seed validatorHotkey s manifest.manifestDigestSha256
    reject (¬ planned.Valid) .validation
    return some planned
  else return none

/-- The key a plan is sorted by. -/
def PlannedProbe.key (p : PlannedProbe) : ℤ ×ₗ String ×ₗ ℤ := toLex (p.fireAtMillis, toLex (p.endpointID, p.probeIndex))

/-- `plan_hidden_probes`. -/
def planHiddenProbes (seed : List UInt8) (validatorHotkey : String) (manifest : ActiveAssignmentManifestV2)
    (s : Schedule) : Except PlanError (List PlannedProbe) := do
  validateSeed seed
  s.check
  reject (¬ manifest.Valid) .validation
  let planned ← planEach (Draw.probe hmac seed validatorHotkey s manifest) (draws s manifest)
  return Sorting.sortOn PlannedProbe.key planned

end Organic

/-! ## The plan of the verified indexes -/

section Static

variable (hmac : List UInt8 → List UInt8 → Mac)

/-- `_HIDDEN_DOMAIN`. -/
def hiddenDomain : String := "miss.computer/misscomputer-subnet/static-hidden-probe/v1"

/-- `HIDDEN_PROBE_CEILING_BYTES`. -/
def hiddenProbeCeilingBytes : ℤ := StaticProbe.hiddenProbeCeilingBytes

/-- `_synthetic_path`. -/
def syntheticPath (index : AuthenticatedIndex) (token : List UInt8) (suffix : String) : Option String :=
  let path := "/" ++ hex (token.take 16) ++ suffix
  if (index.routes.lookup path.toList).isSome then none else some path

/-- The method a representation of this length is asked for with. -/
def methodWithin (ceiling contentLength : ℤ) : Method := if contentLength ≤ ceiling then .get else .head

/-- `sorted(index.routes)`. -/
def sortedRoutes (index : AuthenticatedIndex) : List (List Char) := Sorting.sortedSet (index.routes.map Prod.fst)

/-- The synthetic path of `_hidden_choice`, in the two lanes that try one. -/
def hiddenSynthetic (index : AuthenticatedIndex) (selector : Mac) : Option String :=
  let lane := selector[0].toNat % 8
  if lane = 0 ∨ lane = 1 then
    syntheticPath index (selector.toList.drop 16) (if lane = 0 then ".absent" else "")
  else none

/-- The route of `_hidden_choice`. -/
def hiddenRoute (index : AuthenticatedIndex) (selector : Mac) : List Char :=
  let routes := sortedRoutes index
  routes.getD (fromBytes ((selector.toList.drop 1).take 8) % routes.length) []

/-- `_hidden_choice`. -/
def hiddenChoice (index : AuthenticatedIndex) (selector : Mac) (ceilingBytes : ℤ) :
    Except PlanError (Method × String) :=
  match hiddenSynthetic index selector with
  | some synthetic => do
    let expected ← (index.expectedResponse .get synthetic).mapError .response
    return (methodWithin ceilingBytes expected.contentLength, synthetic)
  | none =>
    match index.routes.lookup (hiddenRoute index selector) with
    | some item =>
      return (methodWithin ceilingBytes item.contentLength, String.ofList (hiddenRoute index selector))
    | none => throw (.response .key)

/-- One place of a static plan. -/
structure StaticDraw where
  index : AuthenticatedIndex
  endpoint : StaticEndpointTarget
  position : ℕ

/-- The places of the indexes, in the order of the three loops. -/
def staticDraws (s : Schedule) (indexes : List AuthenticatedIndex) : List StaticDraw :=
  indexes.flatMap fun index => index.target.endpoints.flatMap fun endpoint =>
    s.positions.map fun position => ⟨index, endpoint, position⟩

/-- `{**context, "purpose": purpose}`. -/
def StaticDraw.context (d : StaticDraw) (s : Schedule) (validatorHotkey purpose : String) : List (String × Json) :=
  [("endpoint_id", text d.endpoint.endpointID), ("epoch_index", .num s.epochIndex),
    ("epoch_seconds", .num s.epochSeconds), ("generation", .num d.endpoint.generation),
    ("probe_index", .num d.position), ("site_digest", text d.index.target.siteDigest),
    ("validator_hotkey", text validatorHotkey), ("purpose", text purpose)]

/-- `_hmac` in the domain of hidden probes. -/
def StaticDraw.mac (d : StaticDraw) (seed : List UInt8) (s : Schedule) (validatorHotkey purpose : String) : Mac :=
  hmac seed (message hiddenDomain (d.context s validatorHotkey purpose))

/-- `fire_at` of a place. -/
def StaticDraw.fireAt (d : StaticDraw) (seed : List UInt8) (validatorHotkey : String) (s : Schedule) : ℤ :=
  s.fireAt d.position (d.mac hmac seed s validatorHotkey "time")

/-- The horizon of the caller: its start and its end in whole seconds. -/
structure Horizon where
  startEpoch : ℤ
  endEpoch : ℤ

/-- The horizon in milliseconds. -/
def Horizon.Holds (h : Horizon) (fireAt : ℤ) : Prop := h.startEpoch * 1000 ≤ fireAt ∧ fireAt < h.endEpoch * 1000

instance (h : Horizon) (fireAt : ℤ) : Decidable (h.Holds fireAt) := inferInstanceAs (Decidable (_ ∧ _))

/-- `_planned`. -/
def planned (index : AuthenticatedIndex) (endpoint : StaticEndpointTarget) (probeKind : ProbeKind) (method : Method)
    (path : String) (probeIndex : ℤ) (fireAtMillis : Option ℤ) (nonce : String) :
    Except PlanError PlannedStaticProbe := do
  let expected ← (index.expectedResponse method path).mapError .response
  let probe : PlannedStaticProbe :=
    { probeKind := probeKind
      deploymentID := index.target.deploymentID
      siteDigest := index.target.siteDigest
      endpointID := endpoint.endpointID
      generation := endpoint.generation
      method := method
      path := path
      expectedKind := expected.kind
      expectedContentLength := expected.contentLength
      probeIndex := probeIndex
      fireAtMillis := fireAtMillis
      nonce := nonce }
  reject (¬ probe.Valid) .validation
  return probe

/-- The body of the loops. -/
def StaticDraw.probe (seed : List UInt8) (validatorHotkey : String) (s : Schedule) (horizon : Horizon) (ceilingBytes : ℤ)
    (d : StaticDraw) : Except PlanError (Option PlannedStaticProbe) := do
  let fireAt := d.fireAt hmac seed validatorHotkey s
  if horizon.Holds fireAt then
    let (method, path) ← hiddenChoice d.index (d.mac hmac seed s validatorHotkey "request") ceilingBytes
    let nonce := hex (d.mac hmac seed s validatorHotkey "nonce").toList
    let probe ← planned d.index d.endpoint .hidden method path d.position (some fireAt) nonce
    return some probe
  else return none

/-- The key a static plan is sorted by. -/
def PlannedStaticProbe.key (p : PlannedStaticProbe) : ℤ ×ₗ String ×ₗ ℤ :=
  toLex (p.fireAtMillis.getD 0, toLex (p.endpointID, p.probeIndex))

/-- `plan_static_hidden_probes`. -/
def planStaticHiddenProbes (seed : List UInt8) (validatorHotkey : String) (indexes : List AuthenticatedIndex)
    (s : Schedule) (horizon : Horizon) (ceilingBytes : ℤ) : Except PlanError (List PlannedStaticProbe) := do
  validateSeed seed
  s.check
  reject (¬ (1 ≤ ceilingBytes ∧ ceilingBytes ≤ hiddenProbeCeilingBytes)) (.value "probe_ceiling_invalid")
  let planned ← planEach (StaticDraw.probe hmac seed validatorHotkey s horizon ceilingBytes) (staticDraws s indexes)
  return Sorting.sortOn PlannedStaticProbe.key planned

end Static

end Probe

end Misscomputer
