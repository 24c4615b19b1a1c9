import Misscomputer.Weights.Exactness
import Mathlib.Tactic.Ring

set_option relaxedAutoImplicit false
set_option autoImplicit false

/-!
# Executing a plan

A plan is executed later than it was built, against the metagraph of that moment. Its hotkeys are looked up again, those
that are gone or inactive are omitted, and the rest is normalized once more.

## Main definitions

* `Weights.ExecutionWeight`, `OmittedWeight`, `ExecutionVector` — what is submitted, and what is left out.
* `Weights.validateExecutionPreflight` — the checks of a plan against a current view of the chain.
* `Weights.deriveExecutionVector` — the vector of a plan.
* `Weights.FollowsHotkeys` — what a vector has to be.

## Main results

* `Weights.deriveExecutionVector_eq_ok` — the vector, exactly.
* `Weights.deriveExecutionVector_follows` — it follows the planned hotkeys, inside the epoch of the plan.

## References

* `src/misscomputer_subnet/weight_executor.py` (`ExecutionWeight`, `OmittedWeight`, `ExecutionVector`,
  `validate_execution_preflight`, `derive_execution_vector`)
-/

namespace Misscomputer

namespace Weights

/-! ## Records -/

/-- How an execution fails: by `WeightExecutionError` with a code, or by an error it does not catch. -/
inductive ExecutionError
  | execution (code message : String)
  | raised (e : PlanError)
  deriving DecidableEq

/-- A check that returns what it has found. -/
def demand (p : Prop) [Decidable p] (code message : String) : Except ExecutionError (PLift p) :=
  if h : p then .ok ⟨h⟩ else .error (.execution code message)

lemma demand_eq_ok {p : Prop} [Decidable p] {code message : String} {h : PLift p} :
    demand p code message = .ok h ↔ p := by
  constructor
  · exact fun _ => h.down
  · intro hp
    exact dif_pos hp

/-- `WEIGHT_PLAN_PROTOCOL_VERSION_KEY`. -/
def weightPlanProtocolVersionKey : ℤ := 2

/-- A weight that is submitted, and the UID it was planned for. -/
structure ExecutionWeight where
  hotkey : List Char
  plannedUid : ℤ
  uid : ℤ
  weight : ℚ
  hotkey_text : IsText 256 hotkey
  planned_range : 0 ≤ plannedUid ∧ plannedUid ≤ 65535
  uid_range : 0 ≤ uid ∧ uid ≤ 65535
  weight_range : 0 < weight ∧ weight ≤ 1

/-- Two weights are equal when their members are. -/
instance : DecidableEq ExecutionWeight := fun a b =>
  decidable_of_iff (a.hotkey = b.hotkey ∧ a.plannedUid = b.plannedUid ∧ a.uid = b.uid ∧ a.weight = b.weight) <| by
    cases a
    cases b
    simp only [ExecutionWeight.mk.injEq]

/-- A planned hotkey that is left out. -/
structure OmittedWeight where
  hotkey : List Char
  plannedUid : ℤ
  hotkey_text : IsText 256 hotkey
  planned_range : 0 ≤ plannedUid ∧ plannedUid ≤ 65535

/-- Two planned hotkeys that are left out are equal when their members are. -/
instance : DecidableEq OmittedWeight := fun a b =>
  decidable_of_iff (a.hotkey = b.hotkey ∧ a.plannedUid = b.plannedUid) <| by
    cases a
    cases b
    simp only [OmittedWeight.mk.injEq]

/-- `ExecutionWeight(...)`. -/
def ExecutionWeight.make (hotkey : List Char) (plannedUid uid : ℤ) (weight : ℚ) :
    Except ExecutionError ExecutionWeight := do
  let hhotkey ← demand (IsText 256 hotkey) "invalid_identity" "execution hotkey is invalid"
  let hplanned ← demand (0 ≤ plannedUid ∧ plannedUid ≤ 65535) "invalid_integer" "planned UID is invalid"
  let huid ← demand (0 ≤ uid ∧ uid ≤ 65535) "invalid_integer" "execution UID is invalid"
  let hweight ← demand (0 < weight ∧ weight ≤ 1) "invalid_weights" "execution weight is invalid"
  return ⟨hotkey, plannedUid, uid, weight, hhotkey.down, hplanned.down, huid.down, hweight.down⟩

/-- `OmittedWeight(...)`. -/
def OmittedWeight.make (hotkey : List Char) (plannedUid : ℤ) : Except ExecutionError OmittedWeight := do
  let hhotkey ← demand (IsText 256 hotkey) "invalid_identity" "omitted hotkey is invalid"
  let hplanned ← demand (0 ≤ plannedUid ∧ plannedUid ≤ 65535) "invalid_integer" "omitted planned UID is invalid"
  return ⟨hotkey, plannedUid, hhotkey.down, hplanned.down⟩

/-- `ExecutionWeight.document`. -/
def ExecutionWeight.document (item : ExecutionWeight) : Value :=
  .dict [("hotkey".toList, .str item.hotkey), ("planned_uid".toList, .int item.plannedUid),
    ("uid".toList, .int item.uid), ("weight".toList, .float (.finite item.weight))]

/-- `OmittedWeight.document`. -/
def OmittedWeight.document (item : OmittedWeight) : Value :=
  .dict [("hotkey".toList, .str item.hotkey), ("planned_uid".toList, .int item.plannedUid)]

/-- The order of the weights: `(item.uid, item.hotkey)`. -/
def ExecutionWeight.key (item : ExecutionWeight) : ℤ ×ₗ List Char := toLex (item.uid, item.hotkey)

/-- The order of the omissions: `(item.planned_uid, item.hotkey)`. -/
def OmittedWeight.key (item : OmittedWeight) : ℤ ×ₗ List Char := toLex (item.plannedUid, item.hotkey)

/-- A lower-case hexadecimal digest. -/
def IsDigest (s : List Char) : Prop := s.length = 64 ∧ ∀ c ∈ s, c ∈ hexDigits

instance (s : List Char) : Decidable (IsDigest s) := inferInstanceAs (Decidable (_ ∧ _))

/-- What is submitted for a plan. -/
structure ExecutionVector (lib : Library) where
  planDigestSha256 : List Char
  network : List Char
  netuid : ℤ
  validatorHotkey : List Char
  versionKey : ℤ
  weights : List ExecutionWeight
  omitted : List OmittedWeight
  digest : IsDigest planDigestSha256
  network_valid : IsNetwork lib network
  netuid_range : 0 ≤ netuid ∧ netuid ≤ 65535
  validator_text : IsText 256 validatorHotkey
  version_range : 0 ≤ versionKey ∧ versionKey ≤ maxVersionKey
  weights_ne : weights ≠ []
  weights_ordered : weights = Sorting.sortOn ExecutionWeight.key weights
  omitted_ordered : omitted = Sorting.sortOn OmittedWeight.key omitted
  hotkeys_nodup : (weights.map ExecutionWeight.hotkey ++ omitted.map OmittedWeight.hotkey).Nodup
  uids_nodup : (weights.map ExecutionWeight.uid).Nodup
  normalized : IsCloseToOne (weights.map ExecutionWeight.weight).sum

namespace ExecutionVector

variable {lib : Library}

/-- `ExecutionVector._unsigned_document`. -/
def unsignedDocument (vector : ExecutionVector lib) : Value :=
  .dict [("netuid".toList, .int vector.netuid), ("network".toList, .str vector.network),
    ("omitted".toList, .list (vector.omitted.map OmittedWeight.document)),
    ("plan_digest_sha256".toList, .str vector.planDigestSha256),
    ("schema".toList, .str "miss.computer/misscomputer-subnet/weight-execution-vector".toList),
    ("schema_version".toList, .int 1), ("validator_hotkey".toList, .str vector.validatorHotkey),
    ("version_key".toList, .int vector.versionKey),
    ("weights".toList, .list (vector.weights.map ExecutionWeight.document))]

/-- `ExecutionVector.digest_sha256`. All numbers of the document are finite, so it has a text. -/
def digestSha256 (vector : ExecutionVector lib) : List Char :=
  hexdigest (Text.bytes (lib.dumps vector.unsignedDocument))

/-- `_validate_public_network`: an error of the check is renamed. -/
def validatePublicNetwork (lib : Library) (network : List Char) :
    Except ExecutionError {network : List Char // IsNetwork lib network} :=
  match validateNetworkIdentity lib "execution network" (.str network) with
  | .ok network => .ok network
  | .error (.weightPlan _) => .error (.execution "invalid_identity" "execution network is invalid")
  | .error e => .error (.raised e)

/-- A network that was checked is valid. -/
lemma isNetwork_checked {lib : Library} (network : {network : List Char // IsNetwork lib network}) :
    IsNetwork lib network.1 := network.2

/-- `ExecutionVector(...)`. -/
def make (lib : Library) (planDigestSha256 network : List Char) (netuid : ℤ) (validatorHotkey : List Char)
    (versionKey : ℤ) (weights : List ExecutionWeight) (omitted : List OmittedWeight) :
    Except ExecutionError (ExecutionVector lib) := do
  let hdigest ← demand (IsDigest planDigestSha256) "invalid_plan" "plan digest is invalid"
  let network ← validatePublicNetwork lib network
  let hnetuid ← demand (0 ≤ netuid ∧ netuid ≤ 65535) "invalid_integer" "execution netuid is invalid"
  let hvalidator ← demand (IsText 256 validatorHotkey) "invalid_identity" "execution validator hotkey is invalid"
  let hversion ← demand (0 ≤ versionKey ∧ versionKey ≤ maxVersionKey) "invalid_integer"
    "execution version key is invalid"
  let hne ← demand (weights ≠ []) "no_valid_planned_hotkeys" "no valid planned hotkeys remain"
  let hweights ← demand (weights = Sorting.sortOn ExecutionWeight.key weights) "invalid_weights"
    "execution weights are not canonical"
  let homitted ← demand (omitted = Sorting.sortOn OmittedWeight.key omitted) "invalid_weights"
    "omitted weights are not canonical"
  let hhotkeys ← demand (weights.map ExecutionWeight.hotkey ++ omitted.map OmittedWeight.hotkey).Nodup
    "invalid_weights" "execution hotkeys are duplicated"
  let huids ← demand (weights.map ExecutionWeight.uid).Nodup "invalid_weights" "execution UIDs are duplicated"
  let hsum ← demand (IsCloseToOne (weights.map ExecutionWeight.weight).sum) "invalid_weights"
    "execution weights are not normalized"
  return ⟨planDigestSha256, network.1, netuid, validatorHotkey, versionKey, weights, omitted, hdigest.down,
    isNetwork_checked network, hnetuid.down, hvalidator.down, hversion.down, hne.down, hweights.down, homitted.down, hhotkeys.down, huids.down,
    hsum.down⟩

end ExecutionVector

/-! ## The preflight -/

/-- The fingerprint of the current metagraph. An error of the check is renamed. -/
def currentFingerprint (lib : Library) (snapshot : MetagraphSnapshot) : Except ExecutionError (List Char) :=
  match snapshotIdentityFingerprint lib snapshot with
  | .ok fingerprint => .ok fingerprint
  | .error (.weightPlan _) => .error (.execution "invalid_chain_state" "the current metagraph identity is invalid")
  | .error e => .error (.raised e)

/-- `validate_execution_preflight`. -/
def validateExecutionPreflight {lib : Library} (plan : WeightPlan lib) (snapshot : MetagraphSnapshot)
    (network : List Char) (netuid : ℤ) (validatorHotkey : List Char) : Except ExecutionError Unit := do
  let _ ← demand (plan.network = network ∧ snapshot.network = network) "wrong_network"
    "network does not match the plan"
  let _ ← demand (plan.netuid = netuid ∧ snapshot.netuid = netuid) "wrong_netuid" "netuid does not match the plan"
  let _ ← demand (plan.validatorHotkey = validatorHotkey) "wrong_validator" "validator does not match the plan"
  let _ ← demand (plan.versionKey = weightPlanProtocolVersionKey) "unsupported_version_key"
    "the plan weight version key is unsupported"
  let _ ← demand (snapshot.finalized = true) "unfinalized_chain_state" "the current metagraph is not finalized"
  let _ ← currentFingerprint lib snapshot
  let _ ← demand (plan.createdBlock ≤ snapshot.block) "chain_rollback" "current block predates the plan"
  let _ ← demand (snapshot.block < plan.expiresAtBlock) "expired_plan" "the plan has expired"
  let _ ← demand (IsPermitted (snapshot.byHotkey validatorHotkey)) "validator_not_permitted"
    "validator is absent, inactive, or lacks a permit"
  return ()

/-! ## The vector -/

/-- What the loop over the planned weights has collected: the current UID, the hotkey, the planned UID and the weight of
every hotkey that is still there, and the hotkeys that are not. -/
structure Resolution where
  retained : List (ℤ × List Char × ℤ × ℚ)
  omitted : List OmittedWeight

/-- One round of the loop over the planned weights. -/
def resolve (current : List Char → Option NeuronRecord) (state : Resolution) (planned : WeightPlanEntry) :
    Except ExecutionError Resolution :=
  match (current planned.hotkey).filter NeuronRecord.active with
  | none => do
    let item ← OmittedWeight.make planned.hotkey planned.uid
    return { state with omitted := state.omitted ++ [item] }
  | some neuron =>
    return { state with retained := state.retained ++ [(neuron.uid, planned.hotkey, planned.uid, planned.weight)] }

/-- The order of the retained weights: `(item[0], item[1])`. -/
def retainedKey (item : ℤ × List Char × ℤ × ℚ) : ℤ ×ₗ List Char := toLex (item.1, item.2.1)

/-- The weight of a retained hotkey. -/
def retainedWeight (item : (ℤ × List Char × ℤ × ℚ) × ℚ) : Except ExecutionError ExecutionWeight :=
  ExecutionWeight.make item.1.2.1 item.1.2.2.1 item.1.1 item.2

/-- `derive_execution_vector`. -/
def deriveExecutionVector {lib : Library} (plan : WeightPlan lib) (snapshot : MetagraphSnapshot)
    (network : List Char) (netuid : ℤ) (validatorHotkey : List Char) :
    Except ExecutionError (ExecutionVector lib) := do
  validateExecutionPreflight plan snapshot network netuid validatorHotkey
  let current := neuronsByHotkey snapshot
  let state ← plan.weights.foldlM (resolve current.get) { retained := [], omitted := [] }
  let _ ← demand (state.retained ≠ []) "no_valid_planned_hotkeys" "no valid planned hotkeys remain"
  let retained := Sorting.sortOn retainedKey state.retained
  let weights : List ℚ := retained.map fun item => item.2.2.2
  let _ ← demand (0 < weights.sum) "invalid_weights" "remaining weight total is invalid"
  let items ← (retained.zip (Normalize.normalize weights)).mapM retainedWeight
  ExecutionVector.make lib (plan.digestSha256 lib) network netuid validatorHotkey plan.versionKey items
    (Sorting.sortOn OmittedWeight.key state.omitted)

/-! ## What the constructors and the preflight return -/

/-- The fields of a weight. -/
def ExecutionWeight.row (item : ExecutionWeight) : List Char × ℤ × ℤ × ℚ :=
  (item.hotkey, item.plannedUid, item.uid, item.weight)

/-- The omission of a planned weight. -/
def WeightPlanEntry.omission (entry : WeightPlanEntry) : OmittedWeight :=
  ⟨entry.hotkey, entry.uid, entry.hotkey_text, entry.uid_range⟩

lemma ExecutionWeight.make_eq_ok {hotkey : List Char} {plannedUid uid : ℤ} {weight : ℚ} {item : ExecutionWeight} :
    ExecutionWeight.make hotkey plannedUid uid weight = .ok item ↔ (hotkey, plannedUid, uid, weight) = item.row := by
  simp only [ExecutionWeight.make, Except.bind_eq_ok, demand_eq_ok]
  constructor
  · rintro ⟨_, _, _, _, _, _, _, _, h⟩
    obtain rfl := Except.ok.inj h
    rfl
  · intro h
    obtain ⟨rfl, rfl, rfl, rfl⟩ : hotkey = item.hotkey ∧ plannedUid = item.plannedUid ∧ uid = item.uid ∧
        weight = item.weight := by
      simpa [ExecutionWeight.row] using h
    exact ⟨⟨item.hotkey_text⟩, item.hotkey_text, ⟨item.planned_range⟩, item.planned_range, ⟨item.uid_range⟩,
      item.uid_range, ⟨item.weight_range⟩, item.weight_range, rfl⟩

/-- A planned weight can always be omitted. -/
lemma OmittedWeight.make_entry (entry : WeightPlanEntry) :
    OmittedWeight.make entry.hotkey entry.uid = .ok entry.omission := by
  simp only [OmittedWeight.make, Except.bind_eq_ok, demand_eq_ok]
  exact ⟨⟨entry.hotkey_text⟩, entry.hotkey_text, ⟨entry.uid_range⟩, entry.uid_range, rfl⟩

section Specs

variable {lib : Library} {plan : WeightPlan lib} {snapshot : MetagraphSnapshot} {network validatorHotkey : List Char}
  {netuid : ℤ} {vector : ExecutionVector lib}

lemma ExecutionVector.validatePublicNetwork_eq_ok {n : {network : List Char // IsNetwork lib network}} :
    ExecutionVector.validatePublicNetwork lib network = .ok n ↔ network = n.1 := by
  have hcheck : validateNetworkIdentity lib "execution network" (.str network) = .ok n ↔ Value.str network = .str n.1 :=
    validateNetworkIdentity_eq_ok
  rw [Value.str.injEq] at hcheck
  rw [← hcheck]
  unfold ExecutionVector.validatePublicNetwork
  split
  · rename_i h
    rw [h, Except.ok.injEq, Except.ok.injEq]
  · rename_i h
    simp [h]
  · rename_i h
    simp [h]

/-- **The constructor** returns the vector with the fields it was given. -/
lemma ExecutionVector.make_eq_ok {planDigestSha256 : List Char} {versionKey : ℤ} {weights : List ExecutionWeight}
    {omitted : List OmittedWeight} :
    ExecutionVector.make lib planDigestSha256 network netuid validatorHotkey versionKey weights omitted = .ok vector ↔
      planDigestSha256 = vector.planDigestSha256 ∧ network = vector.network ∧ netuid = vector.netuid ∧
        validatorHotkey = vector.validatorHotkey ∧ versionKey = vector.versionKey ∧ weights = vector.weights ∧
        omitted = vector.omitted := by
  simp only [ExecutionVector.make, Except.bind_eq_ok, demand_eq_ok, validatePublicNetwork_eq_ok]
  constructor
  · rintro ⟨_, _, n, rfl, _, _, _, _, _, _, _, _, _, _, _, _, _, _, _, _, _, _, h⟩
    obtain rfl := Except.ok.inj h
    exact ⟨rfl, rfl, rfl, rfl, rfl, rfl, rfl⟩
  · rintro ⟨rfl, rfl, rfl, rfl, rfl, rfl, rfl⟩
    exact ⟨⟨vector.digest⟩, vector.digest, ⟨_, vector.network_valid⟩, rfl, ⟨vector.netuid_range⟩, vector.netuid_range,
      ⟨vector.validator_text⟩, vector.validator_text, ⟨vector.version_range⟩, vector.version_range,
      ⟨vector.weights_ne⟩, vector.weights_ne, ⟨vector.weights_ordered⟩, vector.weights_ordered,
      ⟨vector.omitted_ordered⟩, vector.omitted_ordered, ⟨vector.hotkeys_nodup⟩, vector.hotkeys_nodup,
      ⟨vector.uids_nodup⟩, vector.uids_nodup, ⟨vector.normalized⟩, vector.normalized, rfl⟩

lemma currentFingerprint_eq_ok {fingerprint : List Char} :
    currentFingerprint lib snapshot = .ok fingerprint ↔
      snapshot.Valid lib ∧ fingerprint = snapshot.fingerprint lib := by
  rw [← snapshotIdentityFingerprint_eq_ok]
  unfold currentFingerprint
  split
  · rename_i h
    rw [h, Except.ok.injEq, Except.ok.injEq]
  · rename_i h
    simp [h]
  · rename_i h
    simp [h]

/-- What the preflight asks for. -/
structure Preflight (plan : WeightPlan lib) (snapshot : MetagraphSnapshot) (network : List Char) (netuid : ℤ)
    (validatorHotkey : List Char) : Prop where
  network : plan.network = network ∧ snapshot.network = network
  netuid : plan.netuid = netuid ∧ snapshot.netuid = netuid
  validator : plan.validatorHotkey = validatorHotkey
  version : plan.versionKey = weightPlanProtocolVersionKey
  valid : snapshot.Valid lib
  created : plan.createdBlock ≤ snapshot.block
  expires : snapshot.block < plan.expiresAtBlock
  permitted : IsPermitted (snapshot.byHotkey validatorHotkey)

lemma validateExecutionPreflight_eq_ok {u : Unit} :
    validateExecutionPreflight plan snapshot network netuid validatorHotkey = .ok u ↔
      Preflight plan snapshot network netuid validatorHotkey := by
  simp only [validateExecutionPreflight, Except.bind_eq_ok, demand_eq_ok, currentFingerprint_eq_ok]
  constructor
  · rintro ⟨_, hnetwork, _, hnetuid, _, hvalidator, _, hversion, _, _, _, ⟨hvalid, _⟩, _, hcreated, _, hexpires, _,
      hpermitted, _⟩
    exact ⟨hnetwork, hnetuid, hvalidator, hversion, hvalid, hcreated, hexpires, hpermitted⟩
  · intro h
    exact ⟨⟨h.network⟩, h.network, ⟨h.netuid⟩, h.netuid, ⟨h.validator⟩, h.validator, ⟨h.version⟩, h.version,
      ⟨h.valid.finalized⟩, h.valid.finalized, _, ⟨h.valid, rfl⟩, ⟨h.created⟩, h.created, ⟨h.expires⟩, h.expires,
      ⟨h.permitted⟩, h.permitted, rfl⟩

/-- The preflight does not depend on the order of the neurons. -/
lemma Preflight.perm (h : Preflight plan snapshot network netuid validatorHotkey) {neurons : List NeuronRecord}
    (hperm : snapshot.neurons.Perm neurons) :
    Preflight plan { snapshot with neurons } network netuid validatorHotkey := by
  have hvalid := h.valid.perm hperm
  refine { h with network := h.network, netuid := h.netuid, valid := hvalid, created := h.created,
                  expires := h.expires, permitted := ?_ }
  rw [← get_neuronsByHotkey_eq hvalid.hotkeys, get_neuronsByHotkey_perm h.valid.hotkeys hperm,
    get_neuronsByHotkey_eq h.valid.hotkeys]
  exact h.permitted

end Specs

/-! ## The loop over the planned weights -/

/-- The active neuron of a planned hotkey. -/
def currentNeuron (current : List Char → Option NeuronRecord) (planned : WeightPlanEntry) : Option NeuronRecord :=
  (current planned.hotkey).filter NeuronRecord.active

/-- What is retained of a planned weight. -/
def retain (current : List Char → Option NeuronRecord) (planned : WeightPlanEntry) :
    Option (ℤ × List Char × ℤ × ℚ) :=
  (currentNeuron current planned).map fun neuron => (neuron.uid, planned.hotkey, planned.uid, planned.weight)

/-- The planned weights that are left out. -/
def omissions (current : List Char → Option NeuronRecord) (planned : List WeightPlanEntry) : List OmittedWeight :=
  (planned.filter fun entry => (currentNeuron current entry).isNone).map WeightPlanEntry.omission

/-- The loop over the planned weights retains some and omits the others. -/
lemma foldlM_resolve (current : List Char → Option NeuronRecord) (planned : List WeightPlanEntry)
    (state : Resolution) : planned.foldlM (resolve current) state =
      .ok { retained := state.retained ++ planned.filterMap (retain current),
            omitted := state.omitted ++ omissions current planned } := by
  induction planned generalizing state with
  | nil => simp [omissions, pure, Except.pure]
  | cons entry planned ih =>
    rw [List.foldlM_cons]
    cases hneuron : currentNeuron current entry with
    | none =>
      have hstep : resolve current state entry = .ok { state with omitted := state.omitted ++ [entry.omission] } := by
        rw [currentNeuron] at hneuron
        simp only [resolve, hneuron, OmittedWeight.make_entry]
        rfl
      rw [hstep]
      refine (ih _).trans ?_
      simp [omissions, retain, hneuron]
    | some neuron =>
      have hstep : resolve current state entry = .ok { state with
          retained := state.retained ++ [(neuron.uid, entry.hotkey, entry.uid, entry.weight)] } := by
        rw [currentNeuron] at hneuron
        simp only [resolve, hneuron]
        rfl
      rw [hstep]
      refine (ih _).trans ?_
      simp [omissions, retain, hneuron]

/-! ## The vector, exactly -/

/-- The retained weights in order, normalized. -/
def normalizedRetained (retained : List (ℤ × List Char × ℤ × ℚ)) : List (List Char × ℤ × ℤ × ℚ) :=
  (Sorting.sortOn retainedKey retained).map fun item =>
    (item.2.1, item.2.2.1, item.1, item.2.2.2 / (retained.map fun item => item.2.2.2).sum)

/-- What the vector of a plan has to be. -/
structure VectorOf {lib : Library} (plan : WeightPlan lib) (current : List Char → Option NeuronRecord)
    (network : List Char) (netuid : ℤ) (validatorHotkey : List Char) (vector : ExecutionVector lib) : Prop where
  ne : plan.weights.filterMap (retain current) ≠ []
  weights : vector.weights.map ExecutionWeight.row = normalizedRetained (plan.weights.filterMap (retain current))
  omitted : vector.omitted = Sorting.sortOn OmittedWeight.key (omissions current plan.weights)
  digest : vector.planDigestSha256 = plan.digestSha256 lib
  network : vector.network = network
  netuid : vector.netuid = netuid
  validator : vector.validatorHotkey = validatorHotkey
  version : vector.versionKey = plan.versionKey

section Vector

variable {lib : Library} {plan : WeightPlan lib} {snapshot : MetagraphSnapshot} {network validatorHotkey : List Char}
  {netuid : ℤ} {vector : ExecutionVector lib} {current : List Char → Option NeuronRecord}

/-- What is retained has a positive sum. -/
lemma sum_retained_pos (h : plan.weights.filterMap (retain current) ≠ []) :
    0 < ((plan.weights.filterMap (retain current)).map fun item => item.2.2.2).sum := by
  refine Normalize.sum_pos ?_ (by simpa using h)
  intro w hw
  obtain ⟨item, hitem, rfl⟩ := List.mem_map.mp hw
  obtain ⟨entry, -, hretain⟩ := List.mem_filterMap.mp hitem
  obtain ⟨neuron, -, rfl⟩ := Option.map_eq_some_iff.mp hretain
  exact entry.weight_range.1

lemma mapM_retainedWeight {items : List ((ℤ × List Char × ℤ × ℚ) × ℚ)} {weights : List ExecutionWeight} :
    items.mapM retainedWeight = .ok weights ↔ weights.map ExecutionWeight.row =
      items.map fun item => (item.1.2.1, item.1.2.2.1, item.1.1, item.2) := by
  rw [Contract.mapM_eq_ok_iff]
  simp only [retainedWeight, ExecutionWeight.make_eq_ok]
  rw [eq_comm, ← List.forall₂_eq_eq_eq, List.forall₂_map_left_iff, List.forall₂_map_right_iff]

lemma zip_normalize_retained {retained : List (ℤ × List Char × ℤ × ℚ)}
    (h : 0 < (retained.map fun item => item.2.2.2).sum) :
    ((Sorting.sortOn retainedKey retained).zip
      (Normalize.normalize ((Sorting.sortOn retainedKey retained).map fun item => item.2.2.2))).map
        (fun item => (item.1.2.1, item.1.2.2.1, item.1.1, item.2)) = normalizedRetained retained := by
  have hsum : ((Sorting.sortOn retainedKey retained).map fun item => item.2.2.2).sum =
      (retained.map fun item => item.2.2.2).sum := ((Sorting.sortOn_perm retainedKey retained).map _).sum_eq
  rw [Normalize.normalize_eq (by rw [hsum]; exact h.ne'), hsum, normalizedRetained, List.map_map]
  induction Sorting.sortOn retainedKey retained with
  | nil => rfl
  | cons item items ih => simp [ih]

/-- **The vector of a plan** exists when the preflight passes, and is determined. -/
theorem deriveExecutionVector_eq_ok : deriveExecutionVector plan snapshot network netuid validatorHotkey = .ok vector ↔
    Preflight plan snapshot network netuid validatorHotkey ∧
      VectorOf plan (neuronsByHotkey snapshot).get network netuid validatorHotkey vector := by
  set retained := plan.weights.filterMap (retain (neuronsByHotkey snapshot).get) with hretained
  have hsum : ((Sorting.sortOn retainedKey retained).map fun item => item.2.2.2).sum =
      (retained.map fun item => item.2.2.2).sum := ((Sorting.sortOn_perm retainedKey retained).map _).sum_eq
  simp only [deriveExecutionVector, Except.bind_eq_ok, validateExecutionPreflight_eq_ok, foldlM_resolve,
    List.nil_append, ← hretained]
  constructor
  · rintro ⟨_, hpreflight, state, hstate, _, hne, _, htotal, items, hitems, hvector⟩
    obtain rfl := Except.ok.inj hstate
    rw [demand_eq_ok] at hne htotal
    rw [hsum] at htotal
    rw [mapM_retainedWeight, zip_normalize_retained htotal] at hitems
    obtain ⟨hdigest, hnetwork, hnetuid, hvalidator, hversion, rfl, homitted⟩ := ExecutionVector.make_eq_ok.mp hvector
    exact ⟨hpreflight, hne, hitems, homitted.symm, hdigest.symm, hnetwork.symm, hnetuid.symm, hvalidator.symm,
      hversion.symm⟩
  · rintro ⟨hpreflight, h⟩
    have htotal := sum_retained_pos h.ne
    refine ⟨(), hpreflight, _, rfl, ⟨h.ne⟩, demand_eq_ok.mpr h.ne, ⟨hsum.symm ▸ htotal⟩,
      demand_eq_ok.mpr (hsum.symm ▸ htotal), vector.weights, ?_, ?_⟩
    · rw [mapM_retainedWeight, zip_normalize_retained htotal, h.weights]
    · exact ExecutionVector.make_eq_ok.mpr ⟨h.digest.symm, h.network.symm, h.netuid.symm, h.validator.symm,
        h.version.symm, rfl, h.omitted.symm⟩

end Vector

/-! ## Following the hotkeys -/

/-- What a vector has to be: the planned hotkeys are retained or omitted, retained exactly when they are active, at their
current UIDs, with the ratios of the plan and the sum one, inside the epoch of the plan. -/
structure FollowsHotkeys {lib : Library} (plan : WeightPlan lib) (snapshot : MetagraphSnapshot)
    (vector : ExecutionVector lib) : Prop where
  parts : (vector.weights.map ExecutionWeight.hotkey ++ vector.omitted.map OmittedWeight.hotkey).Perm
    (plan.weights.map WeightPlanEntry.hotkey)
  retained : ∀ entry ∈ plan.weights, (∃ item ∈ vector.weights, item.hotkey = entry.hotkey) ↔
    ∃ neuron ∈ snapshot.neurons, neuron.hotkey = entry.hotkey ∧ neuron.active = true
  current : ∀ item ∈ vector.weights, ∃ neuron ∈ snapshot.neurons, neuron.hotkey = item.hotkey ∧
    neuron.active = true ∧ neuron.uid = item.uid
  ascending : (vector.weights.map ExecutionWeight.uid).Pairwise (· < ·)
  ratios : ∀ v ∈ vector.weights, ∀ w ∈ vector.weights, ∀ a ∈ plan.weights, ∀ b ∈ plan.weights,
    a.hotkey = v.hotkey → b.hotkey = w.hotkey → v.weight * b.weight = w.weight * a.weight
  total : (vector.weights.map ExecutionWeight.weight).sum = 1
  recycled : ∀ item ∈ vector.weights, ∀ neuron ∈ snapshot.neurons, neuron.uid = item.uid →
    ∃ entry ∈ plan.weights, entry.hotkey = neuron.hotkey
  created : plan.createdBlock ≤ snapshot.block
  epoch : snapshot.tempo = plan.snapshot.tempo → snapshot.epoch = plan.snapshot.epoch

section Follows

variable {lib : Library} {plan : WeightPlan lib} {snapshot : MetagraphSnapshot} {network validatorHotkey : List Char}
  {netuid : ℤ} {vector : ExecutionVector lib} {current : List Char → Option NeuronRecord}

/-- The UIDs of a vector are strictly ascending. -/
lemma ExecutionVector.uids_ascending (vector : ExecutionVector lib) :
    (vector.weights.map ExecutionWeight.uid).Pairwise (· < ·) := by
  have hsorted : vector.weights.Pairwise fun a b => a.key ≤ b.key := by
    rw [vector.weights_ordered]
    exact Sorting.pairwise_sortOn _ _
  have hnodup := vector.uids_nodup
  rw [List.Nodup, List.pairwise_map] at hnodup
  rw [List.pairwise_map]
  refine (hsorted.and hnodup).imp ?_
  rintro a b ⟨hle, hne⟩
  exact lt_of_le_of_ne (Prod.Lex.monotone_fst _ _ hle) hne

/-- The planned weight and the neuron behind a submitted weight. -/
lemma VectorOf.exists_planned (h : VectorOf plan current network netuid validatorHotkey vector) {item : ExecutionWeight}
    (hitem : item ∈ vector.weights) :
    ∃ entry ∈ plan.weights, ∃ neuron, currentNeuron current entry = some neuron ∧ item.hotkey = entry.hotkey ∧
      item.uid = neuron.uid ∧ item.weight = entry.weight /
        ((plan.weights.filterMap (retain current)).map fun item => item.2.2.2).sum := by
  have hrow : item.row ∈ normalizedRetained (plan.weights.filterMap (retain current)) := by
    rw [← h.weights]
    exact List.mem_map_of_mem hitem
  obtain ⟨t, ht, heq⟩ := List.mem_map.mp hrow
  obtain ⟨entry, hentry, hretain⟩ := List.mem_filterMap.mp (Sorting.mem_sortOn.mp ht)
  obtain ⟨neuron, hneuron, rfl⟩ := Option.map_eq_some_iff.mp hretain
  obtain ⟨hhotkey, hrest⟩ := Prod.mk.inj heq
  obtain ⟨-, hrest⟩ := Prod.mk.inj hrest
  obtain ⟨huid, hweight⟩ := Prod.mk.inj hrest
  exact ⟨entry, hentry, neuron, hneuron, hhotkey.symm, huid.symm, hweight.symm⟩

/-- The hotkeys of the submitted weights are those of the planned weights with a current neuron. -/
lemma VectorOf.hotkeys_perm (h : VectorOf plan current network netuid validatorHotkey vector) :
    (vector.weights.map ExecutionWeight.hotkey).Perm
      ((plan.weights.filter fun entry => (currentNeuron current entry).isSome).map WeightPlanEntry.hotkey) := by
  have hmap : vector.weights.map ExecutionWeight.hotkey =
      (normalizedRetained (plan.weights.filterMap (retain current))).map Prod.fst := by
    rw [← h.weights, List.map_map]
    rfl
  have hretained : ∀ l : List WeightPlanEntry, (l.filterMap (retain current)).map (fun item => item.2.1) =
      (l.filter fun entry => (currentNeuron current entry).isSome).map WeightPlanEntry.hotkey := by
    intro l
    induction l with
    | nil => rfl
    | cons entry l ih =>
      rw [List.filterMap_cons, List.filter_cons, retain]
      cases hneuron : currentNeuron current entry with
      | none => simpa using ih
      | some neuron => simpa using ih
  rw [hmap, normalizedRetained, List.map_map, ← hretained]
  exact (Sorting.sortOn_perm retainedKey _).map fun item => item.2.1

/-- **The planned hotkeys** are retained or omitted, each once. -/
lemma VectorOf.parts (h : VectorOf plan current network netuid validatorHotkey vector) :
    (vector.weights.map ExecutionWeight.hotkey ++ vector.omitted.map OmittedWeight.hotkey).Perm
      (plan.weights.map WeightPlanEntry.hotkey) := by
  have homitted : (vector.omitted.map OmittedWeight.hotkey).Perm
      ((plan.weights.filter fun entry => !(currentNeuron current entry).isSome).map WeightPlanEntry.hotkey) := by
    rw [h.omitted]
    refine ((Sorting.sortOn_perm OmittedWeight.key _).map _).trans (List.Perm.of_eq ?_)
    rw [omissions, List.map_map]
    simp only [Option.not_isSome]
    rfl
  refine (h.hotkeys_perm.append homitted).trans ?_
  rw [← List.map_append]
  exact (List.filter_append_perm _ plan.weights).map _

/-- The submitted weights sum to one. -/
lemma VectorOf.total (h : VectorOf plan current network netuid validatorHotkey vector) :
    (vector.weights.map ExecutionWeight.weight).sum = 1 := by
  set retained := plan.weights.filterMap (retain current) with hretained
  have hmap : vector.weights.map ExecutionWeight.weight =
      ((Sorting.sortOn retainedKey retained).map fun item => item.2.2.2).map fun w =>
        w / (retained.map fun item => item.2.2.2).sum := by
    have := congrArg (List.map fun row : List Char × ℤ × ℤ × ℚ => row.2.2.2) h.weights
    rw [normalizedRetained, List.map_map, List.map_map] at this
    rw [List.map_map]
    exact this
  have hsorted : ((Sorting.sortOn retainedKey retained).map fun item => item.2.2.2).sum =
      (retained.map fun item => item.2.2.2).sum := ((Sorting.sortOn_perm retainedKey retained).map _).sum_eq
  rw [hmap, ← hsorted]
  exact Normalize.sum_map_div (by rw [hsorted]; exact (sum_retained_pos h.ne).ne')

/-- **A block in the window of a plan** lies in the epoch of the plan, if the tempo has not changed.

**Proof sketch.** The plan expires with the next epoch at the latest. -/
lemma epoch_eq_of_window (hvalid : snapshot.Valid lib) (hcreated : plan.createdBlock ≤ snapshot.block)
    (hexpires : snapshot.block < plan.expiresAtBlock) (htempo : snapshot.tempo = plan.snapshot.tempo) :
    snapshot.epoch = plan.snapshot.epoch := by
  have hpos : 0 < plan.snapshot.tempo := by have := plan.snapshot.tempo_range.1; omega
  have hlast := hexpires.trans_le plan.expires_le_nextEpoch
  rw [hvalid.epoch_eq, plan.snapshot.epoch_eq, htempo]
  rw [plan.created_eq] at hcreated
  have hle := Int.ediv_le_ediv hpos hcreated
  have hlt := Int.ediv_lt_of_lt_mul hpos hlast
  omega

/-- The active neuron of a planned hotkey, in a valid snapshot. -/
lemma currentNeuron_eq_some (hvalid : snapshot.Valid lib) {entry : WeightPlanEntry} {neuron : NeuronRecord} :
    currentNeuron (neuronsByHotkey snapshot).get entry = some neuron ↔
      neuron ∈ snapshot.neurons ∧ neuron.hotkey = entry.hotkey ∧ neuron.active = true := by
  rw [currentNeuron, Option.filter_eq_some_iff, get_neuronsByHotkey hvalid.hotkeys]
  tauto

/-- **Execution follows the hotkeys inside the plan's own epoch.** A vector that was derived follows the planned hotkeys,
and the neurons in any other order give the same vector.

**Proof sketch.** A planned hotkey has a neuron in the dictionary exactly when it is in the snapshot, and a UID belongs to
one neuron only, so a recycled UID is submitted only under a planned hotkey. -/
theorem deriveExecutionVector_follows {lib : Library} (plan : WeightPlan lib) (snapshot : MetagraphSnapshot)
    (network : List Char) (netuid : ℤ) (validatorHotkey : List Char) (vector : ExecutionVector lib)
    (h : deriveExecutionVector plan snapshot network netuid validatorHotkey = .ok vector) :
    FollowsHotkeys plan snapshot vector ∧ ∀ neurons, snapshot.neurons.Perm neurons →
      deriveExecutionVector plan { snapshot with neurons } network netuid validatorHotkey = .ok vector := by
  obtain ⟨hpreflight, hvector⟩ := deriveExecutionVector_eq_ok.mp h
  have hvalid := hpreflight.valid
  have hactive := fun {entry neuron} => @currentNeuron_eq_some lib snapshot hvalid entry neuron
  constructor
  · refine ⟨hvector.parts, ?_, ?_, vector.uids_ascending, ?_, hvector.total, ?_, hpreflight.created,
      epoch_eq_of_window hvalid hpreflight.created hpreflight.expires⟩
    · intro entry hentry
      constructor
      · rintro ⟨item, hitem, heq⟩
        obtain ⟨planned, -, neuron, hneuron, hhotkey, -, -⟩ := hvector.exists_planned hitem
        obtain ⟨hmem, hkey, hact⟩ := hactive.mp hneuron
        exact ⟨neuron, hmem, by rw [hkey, ← hhotkey, heq], hact⟩
      · rintro ⟨neuron, hmem, hkey, hact⟩
        have hneuron := hactive.mpr ⟨hmem, hkey, hact⟩
        have hkept : entry.hotkey ∈ vector.weights.map ExecutionWeight.hotkey := by
          rw [hvector.hotkeys_perm.mem_iff]
          exact List.mem_map_of_mem (List.mem_filter.mpr ⟨hentry, by rw [hneuron]; rfl⟩)
        obtain ⟨item, hitem, heq⟩ := List.mem_map.mp hkept
        exact ⟨item, hitem, heq⟩
    · intro item hitem
      obtain ⟨planned, -, neuron, hneuron, hhotkey, huid, -⟩ := hvector.exists_planned hitem
      obtain ⟨hmem, hkey, hact⟩ := hactive.mp hneuron
      exact ⟨neuron, hmem, hkey.trans hhotkey.symm, hact, huid.symm⟩
    · intro v hv w hw a ha b hb hav hbw
      obtain ⟨a', ha', -, -, hhotkey, -, hweight⟩ := hvector.exists_planned hv
      obtain ⟨b', hb', -, -, hhotkey', -, hweight'⟩ := hvector.exists_planned hw
      obtain rfl := List.inj_on_of_nodup_map plan.hotkeys_nodup ha ha' (hav.trans hhotkey)
      obtain rfl := List.inj_on_of_nodup_map plan.hotkeys_nodup hb hb' (hbw.trans hhotkey')
      rw [hweight, hweight']
      ring
    · intro item hitem neuron hneuron huid
      obtain ⟨planned, hplanned, current, hcurrent, hhotkey, huid', -⟩ := hvector.exists_planned hitem
      obtain ⟨hmem, hkey, -⟩ := hactive.mp hcurrent
      obtain rfl := List.inj_on_of_nodup_map hvalid.uids hneuron hmem (huid.trans huid')
      exact ⟨planned, hplanned, hkey.symm⟩
  · intro neurons hperm
    refine deriveExecutionVector_eq_ok.mpr ⟨hpreflight.perm hperm, ?_⟩
    rw [get_neuronsByHotkey_perm hvalid.hotkeys hperm]
    exact hvector

end Follows

/-! ## A sample -/

namespace Sample

/-- The miner, registered again at another UID. -/
def movedNeuron : NeuronRecord := { minerNeuron with uid := 5 }

/-- A newcomer at the miner's planned UID. -/
def newcomer : NeuronRecord := { minerNeuron with hotkey := ['x'] }

/-- The chain ten blocks later. -/
def later : MetagraphSnapshot := { snapshot with block := 1010, neurons := [validatorNeuron, movedNeuron, newcomer] }

lemma whole_range : 0 < (1 : ℚ) ∧ (1 : ℚ) ≤ 1 := by decide

lemma versionKey_range : 0 ≤ (2 : ℤ) ∧ 2 ≤ maxVersionKey := by decide

/-- What is submitted then. -/
def vector : ExecutionVector library where
  planDigestSha256 := plan.digestSha256 library
  network := snapshot.network
  netuid := 7
  validatorHotkey := ['v']
  versionKey := 2
  weights := [⟨['m'], 1, 5, 1, by decide, by decide, by decide, whole_range⟩]
  omitted := []
  digest := isFingerprint_str.mp (isFingerprint_hexdigest _)
  network_valid := isNetwork
  netuid_range := by decide
  validator_text := by decide
  version_range := versionKey_range
  weights_ne := List.cons_ne_nil _ _
  weights_ordered := (Sorting.sortOn_eq_self (List.pairwise_singleton _ _)).symm
  omitted_ordered := rfl
  hotkeys_nodup := by decide
  uids_nodup := by decide
  normalized := by
    rw [IsCloseToOne, List.map_singleton, List.sum_singleton]
    norm_num

lemma later_valid : later.Valid library where
  network := isNetwork
  netuid := by decide
  block := by decide
  tempo := by decide
  finalized := rfl
  size := ⟨List.cons_ne_nil _ _, by decide⟩
  neurons := by
    intro neuron hneuron
    obtain rfl | rfl | rfl : neuron = validatorNeuron ∨ neuron = movedNeuron ∨ neuron = newcomer := by
      simpa [later] using hneuron
    · exact validator_valid
    · exact ⟨by decide, by decide, le_refl (0 : ℚ), by simp [movedNeuron, minerNeuron]⟩
    · exact ⟨by decide, by decide, le_refl (0 : ℚ), by simp [newcomer, minerNeuron]⟩
  uids := by decide
  hotkeys := by decide

lemma derive_later : deriveExecutionVector plan later snapshot.network 7 ['v'] = .ok vector := by
  have hget : (neuronsByHotkey later).get ['m'] = some movedNeuron :=
    (get_neuronsByHotkey later_valid.hotkeys).mpr ⟨by simp [later], rfl⟩
  have hcurrent : currentNeuron (neuronsByHotkey later).get miner_valid.entry = some movedNeuron := by
    rw [currentNeuron]
    exact (congrArg (Option.filter NeuronRecord.active) hget).trans rfl
  have hretain : plan.weights.filterMap (retain (neuronsByHotkey later).get) = [(5, ['m'], 1, 1)] := by
    have hone : retain (neuronsByHotkey later).get miner_valid.entry = some (5, ['m'], 1, 1) := by
      rw [retain, hcurrent]
      rfl
    change [miner_valid.entry].filterMap _ = _
    rw [List.filterMap_cons_some hone, List.filterMap_nil]
  have homitted : omissions (neuronsByHotkey later).get plan.weights = [] := by
    change omissions _ [miner_valid.entry] = _
    simp [omissions, hcurrent]
  have hcreated : plan.createdBlock ≤ later.block := by
    change (1000 : ℤ) ≤ 1010
    omega
  have hexpires : later.block < plan.expiresAtBlock := by
    change (1010 : ℤ) < conservativeExpiryLimit 1000 360
    decide
  refine deriveExecutionVector_eq_ok.mpr ⟨⟨⟨rfl, rfl⟩, ⟨rfl, rfl⟩, rfl, rfl, later_valid, hcreated, hexpires,
    validatorNeuron, rfl, rfl, rfl⟩, ?_, ?_, ?_, ?_, rfl, rfl, rfl, rfl⟩
  · rw [hretain]
    exact List.cons_ne_nil _ _
  · rw [hretain, normalizedRetained, Sorting.sortOn_eq_self (List.pairwise_singleton _ _)]
    simp [vector, ExecutionWeight.row]
  · rw [homitted]
    rfl
  · simp only [vector]

end Sample

/-- The miner was registered again at another UID, and a newcomer has its planned one: the weight follows the miner. -/
theorem deriveExecutionVector_follows_sample :
    deriveExecutionVector Sample.plan Sample.later Sample.snapshot.network 7 ['v'] = .ok Sample.vector ∧
      FollowsHotkeys Sample.plan Sample.later Sample.vector ∧
      Sample.vector.weights.map ExecutionWeight.uid = [5] ∧ Sample.plan.weights.map WeightPlanEntry.uid = [1] :=
  ⟨Sample.derive_later, (deriveExecutionVector_follows _ _ _ _ _ _ Sample.derive_later).1, rfl, rfl⟩

end Weights

end Misscomputer
