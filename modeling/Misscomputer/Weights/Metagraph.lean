import Misscomputer.Weights.Plan

set_option relaxedAutoImplicit false
set_option autoImplicit false

/-!
# The metagraph

A snapshot of the chain lists the registered neurons. A plan is bound to one by the fingerprint of the complete list,
which does not depend on its order, and lives at most to the end of the snapshot's epoch.

## Main definitions

* `Weights.NeuronRecord`, `Weights.MetagraphSnapshot` — the chain's records.
* `Weights.validateSnapshotNeuron`, `Weights.snapshotIdentityFingerprint` — the checks of a snapshot, and its fingerprint.
* `Weights.conservativeExpiryBlock` — the last block of a plan.
* `Weights.MetagraphSnapshot.Valid` — what the checks ask of a snapshot.

## Main results

* `Weights.snapshotIdentityFingerprint_eq_ok` — the fingerprint of a valid snapshot.
* `Weights.MetagraphSnapshot.Valid.fingerprint_perm` — it is the same for every order of the neurons.
* `Weights.conservativeExpiryBlock_eq_ok` — a valid snapshot has an expiry block, unless it is at the block limit.

## References

* `src/misscomputer_subnet/chain.py` (`NeuronRecord`, `MetagraphSnapshot`)
* `src/misscomputer_subnet/weight_plan.py` (`_validate_snapshot_neuron`, `snapshot_identity_fingerprint`,
  `conservative_expiry_block`)
-/

namespace Misscomputer

namespace Weights

/-! ## Chain records -/

/-- `NeuronRecord`. -/
structure NeuronRecord where
  uid : ℤ
  hotkey : List Char
  validatorPermit : Bool
  taoStake : Double
  axon : Option (List Char)
  active : Bool
  deriving DecidableEq

/-- `MetagraphSnapshot`. -/
structure MetagraphSnapshot where
  network : List Char
  netuid : ℤ
  block : ℤ
  tempo : ℤ
  neurons : List NeuronRecord
  finalized : Bool

/-- `MetagraphSnapshot.epoch`. -/
def MetagraphSnapshot.epoch (snapshot : MetagraphSnapshot) : ℤ := snapshot.block / max snapshot.tempo 1

/-- `MetagraphSnapshot.by_hotkey`. -/
def MetagraphSnapshot.byHotkey (snapshot : MetagraphSnapshot) (hotkey : List Char) : Option NeuronRecord :=
  snapshot.neurons.find? fun neuron => neuron.hotkey = hotkey

/-- The text of the neuron's axon, or nothing. -/
def NeuronRecord.axonValue (neuron : NeuronRecord) : Value := neuron.axon.elim .null .str

/-- A stake is finite and not negative. -/
def IsStake (x : Double) : Prop :=
  match x with
  | .finite q => 0 ≤ q
  | .nonFinite => False

instance (x : Double) : Decidable (IsStake x) :=
  match x with
  | .finite q => inferInstanceAs (Decidable (0 ≤ q))
  | .nonFinite => isFalse id

/-- The hexadecimal text of a stake. -/
def Library.stakeHex (lib : Library) : Double → List Char
  | .finite q => lib.floatHex q
  | .nonFinite => []

/-- The identity of a neuron, as the fingerprint covers it. -/
def NeuronRecord.identity (lib : Library) (neuron : NeuronRecord) : Value :=
  .dict [("active".toList, .bool neuron.active), ("axon".toList, neuron.axonValue),
    ("hotkey".toList, .str neuron.hotkey), ("tao_stake_hex".toList, .str (lib.stakeHex neuron.taoStake)),
    ("uid".toList, .int neuron.uid), ("validator_permit".toList, .bool neuron.validatorPermit)]

/-- The check of an axon that is present. -/
def validateAxon (axon : Option (List Char)) : Except PlanError Unit :=
  match axon with
  | none => .ok ()
  | some text => do
    let _ ← validateText "snapshot axon identity" 4096 (.str text)
    return ()

/-- `_validate_snapshot_neuron`. The flags are booleans by their type. -/
def validateSnapshotNeuron (lib : Library) (neuron : NeuronRecord) : Except PlanError (ℤ × List Char × Value) := do
  let uid ← validateInteger "snapshot UID" 0 65535 (.int neuron.uid)
  let hotkey ← validateText "snapshot hotkey" 256 (.str neuron.hotkey)
  let _ ← require (IsStake neuron.taoStake) "snapshot stake is invalid"
  validateAxon neuron.axon
  return (uid.1, hotkey.1, neuron.identity lib)

/-- What the checks ask of a neuron. -/
structure NeuronRecord.Valid (neuron : NeuronRecord) : Prop where
  uid : 0 ≤ neuron.uid ∧ neuron.uid ≤ 65535
  hotkey : IsText 256 neuron.hotkey
  stake : IsStake neuron.taoStake
  axon : ∀ text ∈ neuron.axon, IsText 4096 text

lemma validateAxon_eq_ok {axon : Option (List Char)} {u : Unit} :
    validateAxon axon = .ok u ↔ ∀ text ∈ axon, IsText 4096 text := by
  cases axon with
  | none => simp [validateAxon]
  | some text =>
    simp only [validateAxon, Except.bind_eq_ok, validateText_eq_ok, Option.mem_def, Option.some.injEq, forall_eq']
    constructor
    · rintro ⟨s, hs, -⟩
      rw [Value.str.inj hs]
      exact s.2
    · intro h
      exact ⟨⟨text, h⟩, rfl, rfl⟩

/-- **A neuron that passes** is valid, and its identity is returned. -/
lemma validateSnapshotNeuron_eq_ok {lib : Library} {neuron : NeuronRecord} {x : ℤ × List Char × Value} :
    validateSnapshotNeuron lib neuron = .ok x ↔ neuron.Valid ∧ x = (neuron.uid, neuron.hotkey, neuron.identity lib) := by
  simp only [validateSnapshotNeuron, Except.bind_eq_ok, validateInteger_eq_ok, validateText_eq_ok, require_eq_ok,
    validateAxon_eq_ok]
  constructor
  · rintro ⟨u, hu, h, hh, -, hstake, -, haxon, heq⟩
    obtain rfl := Except.ok.inj heq
    rw [Value.int.inj hu, Value.str.inj hh]
    refine ⟨⟨?_, ?_, hstake, haxon⟩, rfl⟩
    · rw [Value.int.inj hu]
      exact u.2
    · rw [Value.str.inj hh]
      exact h.2
  · rintro ⟨⟨huid, hhotkey, hstake, haxon⟩, rfl⟩
    exact ⟨⟨_, huid⟩, rfl, ⟨_, hhotkey⟩, rfl, ⟨hstake⟩, hstake, (), haxon, rfl⟩

/-! ## The fingerprint -/

/-- `SNAPSHOT_IDENTITY_SCHEMA`. -/
def snapshotIdentitySchema : List Char := "miss.computer/misscomputer-subnet/metagraph-identity/v1".toList

/-- What the fingerprint is taken of. -/
def identityDocument (network : List Char) (netuid block tempo : ℤ) (ordered : List Value) : Value :=
  .dict [("block".toList, .int block), ("epoch".toList, .int (block / tempo)), ("finalized".toList, .bool true),
    ("netuid".toList, .int netuid), ("network".toList, .str network), ("neurons".toList, .list ordered),
    ("schema".toList, .str snapshotIdentitySchema), ("tempo".toList, .int tempo)]

/-- The order of the identities: `item[:2]`. -/
def identityKey (item : ℤ × List Char × Value) : ℤ ×ₗ List Char := toLex (item.1, item.2.1)

/-- `snapshot_identity_fingerprint`. -/
def snapshotIdentityFingerprint (lib : Library) (snapshot : MetagraphSnapshot) : Except PlanError (List Char) := do
  let network ← validateNetworkIdentity lib "snapshot network" (.str snapshot.network)
  let netuid ← validateInteger "snapshot netuid" 0 65535 (.int snapshot.netuid)
  let block ← validateInteger "snapshot block" 0 maxBlock (.int snapshot.block)
  let tempo ← validateInteger "snapshot tempo" 1 maxBlock (.int snapshot.tempo)
  let _ ← require (snapshot.finalized = true) "weight plans require a finalized metagraph snapshot"
  let _ ← require (snapshot.neurons ≠ [] ∧ snapshot.neurons.length ≤ maxWeightPlanNeurons)
    "snapshot neuron collection is empty or too large"
  let identities ← snapshot.neurons.mapM (validateSnapshotNeuron lib)
  let _ ← require (identities.map fun item => item.1).Nodup "snapshot contains duplicate UIDs"
  let _ ← require (identities.map fun item => item.2.1).Nodup "snapshot contains duplicate hotkeys"
  let ordered := (Sorting.sortOn identityKey identities).map fun item => item.2.2
  let document := identityDocument network.1 netuid.1 block.1 tempo.1 ordered
  let rendered ← canonicalJson lib document
  return hexdigest rendered

/-- `conservative_expiry_block`. -/
def conservativeExpiryBlock (snapshot : MetagraphSnapshot) : Except PlanError ℤ := do
  let block ← validateInteger "snapshot block" 0 maxBlock (.int snapshot.block)
  let tempo ← validateInteger "snapshot tempo" 1 maxBlock (.int snapshot.tempo)
  let _ ← require (block.1 < conservativeExpiryLimit block.1 tempo.1)
    "snapshot is too close to the supported block limit"
  return conservativeExpiryLimit block.1 tempo.1

namespace MetagraphSnapshot

/-- What the fingerprint asks of a snapshot. -/
structure Valid (lib : Library) (snapshot : MetagraphSnapshot) : Prop where
  network : IsNetwork lib snapshot.network
  netuid : 0 ≤ snapshot.netuid ∧ snapshot.netuid ≤ 65535
  block : 0 ≤ snapshot.block ∧ snapshot.block ≤ maxBlock
  tempo : 1 ≤ snapshot.tempo ∧ snapshot.tempo ≤ maxBlock
  finalized : snapshot.finalized = true
  size : snapshot.neurons ≠ [] ∧ snapshot.neurons.length ≤ maxWeightPlanNeurons
  neurons : ∀ neuron ∈ snapshot.neurons, neuron.Valid
  uids : (snapshot.neurons.map NeuronRecord.uid).Nodup
  hotkeys : (snapshot.neurons.map NeuronRecord.hotkey).Nodup

/-- The identities of the neurons. -/
def identities (lib : Library) (snapshot : MetagraphSnapshot) : List (ℤ × List Char × Value) :=
  snapshot.neurons.map fun neuron => (neuron.uid, neuron.hotkey, neuron.identity lib)

/-- The document of a snapshot's identity. -/
def document (lib : Library) (snapshot : MetagraphSnapshot) : Value :=
  identityDocument snapshot.network snapshot.netuid snapshot.block snapshot.tempo
    ((Sorting.sortOn identityKey (snapshot.identities lib)).map fun item => item.2.2)

/-- The fingerprint of a snapshot. -/
def fingerprint (lib : Library) (snapshot : MetagraphSnapshot) : List Char :=
  hexdigest (Text.bytes (lib.dumps (snapshot.document lib)))

end MetagraphSnapshot

section Fingerprint

variable {lib : Library} {snapshot : MetagraphSnapshot}

/-- A loop whose body returns a function of the element where it returns. -/
lemma mapM_eq_ok_map {α β : Type} {f : α → Except PlanError β} {P : α → Prop} {g : α → β}
    (h : ∀ a b, f a = .ok b ↔ P a ∧ b = g a) {l : List α} {bs : List β} :
    l.mapM f = .ok bs ↔ (∀ a ∈ l, P a) ∧ bs = l.map g := by
  rw [Contract.mapM_eq_ok_iff]
  simp only [h]
  induction l generalizing bs with
  | nil => simp
  | cons a l ih =>
    rw [List.forall₂_cons_left_iff]
    simp only [ih, List.forall_mem_cons, List.map_cons]
    constructor
    · rintro ⟨b, bs', ⟨ha, rfl⟩, ⟨hl, rfl⟩, rfl⟩
      exact ⟨⟨ha, hl⟩, rfl⟩
    · rintro ⟨⟨ha, hl⟩, rfl⟩
      exact ⟨_, _, ⟨ha, rfl⟩, ⟨hl, rfl⟩, rfl⟩

/-- The identity of a neuron has a text. -/
lemma allFinite_identity (neuron : NeuronRecord) : (neuron.identity lib).allFinite = true := by
  have haxon : neuron.axonValue.allFinite = true := by
    rw [NeuronRecord.axonValue]
    cases neuron.axon with
    | none => rfl
    | some text => rfl
  simp only [NeuronRecord.identity, Value.allFinite, Value.allFiniteMembers, haxon, Bool.and_self]

lemma allFinite_document : (snapshot.document lib).allFinite = true := by
  have hneurons : Value.allFiniteItems
      ((Sorting.sortOn identityKey (snapshot.identities lib)).map fun item => item.2.2) = true := by
    rw [Value.allFiniteItems_iff]
    intro v hv
    obtain ⟨item, hitem, rfl⟩ := List.mem_map.mp hv
    rw [Sorting.mem_sortOn] at hitem
    obtain ⟨neuron, -, rfl⟩ := List.mem_map.mp hitem
    exact allFinite_identity neuron
  simp only [MetagraphSnapshot.document, identityDocument, Value.allFinite, Value.allFiniteMembers, hneurons,
    Bool.and_self]

/-- **The fingerprint of a snapshot** exists when the snapshot is valid. -/
theorem snapshotIdentityFingerprint_eq_ok {fingerprint : List Char} :
    snapshotIdentityFingerprint lib snapshot = .ok fingerprint ↔
      snapshot.Valid lib ∧ fingerprint = snapshot.fingerprint lib := by
  have huids : (snapshot.identities lib).map (fun item => item.1) = snapshot.neurons.map NeuronRecord.uid :=
    List.map_map ..
  have hhotkeys : (snapshot.identities lib).map (fun item => item.2.1) = snapshot.neurons.map NeuronRecord.hotkey :=
    List.map_map ..
  have hneurons : ∀ ids, snapshot.neurons.mapM (validateSnapshotNeuron lib) = .ok ids ↔
      (∀ neuron ∈ snapshot.neurons, neuron.Valid) ∧ ids = snapshot.identities lib :=
    fun ids => mapM_eq_ok_map fun neuron x => validateSnapshotNeuron_eq_ok
  have hrendered : canonicalJson lib (snapshot.document lib) = .ok (Text.bytes (lib.dumps (snapshot.document lib))) :=
    if_pos allFinite_document
  simp only [snapshotIdentityFingerprint, Except.bind_eq_ok, validateNetworkIdentity_eq_ok, validateInteger_eq_ok,
    require_eq_ok, hneurons]
  constructor
  · rintro ⟨n, hn, u, hu, b, hb, t, ht, -, hfinal, -, hsize, ids, ⟨hvalid, rfl⟩, -, hnodup, -, hnodup', text, htext, heq⟩
    rw [← Value.str.inj hn, ← Value.int.inj hu, ← Value.int.inj hb, ← Value.int.inj ht] at htext
    rw [Except.ok.inj (htext.symm.trans hrendered)] at heq
    refine ⟨⟨?_, ?_, ?_, ?_, hfinal, hsize, hvalid, huids ▸ hnodup, hhotkeys ▸ hnodup'⟩, (Except.ok.inj heq).symm⟩
    · rw [Value.str.inj hn]
      exact n.2
    · rw [Value.int.inj hu]
      exact u.2
    · rw [Value.int.inj hb]
      exact b.2
    · rw [Value.int.inj ht]
      exact t.2
  · rintro ⟨h, rfl⟩
    exact ⟨⟨_, h.network⟩, rfl, ⟨_, h.netuid⟩, rfl, ⟨_, h.block⟩, rfl, ⟨_, h.tempo⟩, rfl, ⟨h.finalized⟩, h.finalized,
      ⟨h.size⟩, h.size, _, ⟨h.neurons, rfl⟩, ⟨huids.symm ▸ h.uids⟩, huids.symm ▸ h.uids, ⟨hhotkeys.symm ▸ h.hotkeys⟩,
      hhotkeys.symm ▸ h.hotkeys, _, hrendered, rfl⟩

/-- The expiry block of a snapshot that is not at the block limit. -/
lemma conservativeExpiryBlock_eq_ok {expiry : ℤ} :
    conservativeExpiryBlock snapshot = .ok expiry ↔
      ((0 ≤ snapshot.block ∧ snapshot.block ≤ maxBlock) ∧ (1 ≤ snapshot.tempo ∧ snapshot.tempo ≤ maxBlock) ∧
        snapshot.block < conservativeExpiryLimit snapshot.block snapshot.tempo) ∧
      expiry = conservativeExpiryLimit snapshot.block snapshot.tempo := by
  simp only [conservativeExpiryBlock, Except.bind_eq_ok, validateInteger_eq_ok, require_eq_ok]
  constructor
  · rintro ⟨b, hb, t, ht, -, hlimit, heq⟩
    rw [← Value.int.inj hb, ← Value.int.inj ht] at hlimit heq
    refine ⟨⟨?_, ?_, hlimit⟩, (Except.ok.inj heq).symm⟩
    · rw [Value.int.inj hb]
      exact b.2
    · rw [Value.int.inj ht]
      exact t.2
  · rintro ⟨⟨hb, ht, hlimit⟩, rfl⟩
    exact ⟨⟨_, hb⟩, rfl, ⟨_, ht⟩, rfl, ⟨hlimit⟩, hlimit, rfl⟩

end Fingerprint

/-! ## The order of the neurons -/

section Order

variable {lib : Library} {snapshot : MetagraphSnapshot} {neurons : List NeuronRecord}

/-- The epoch of a valid snapshot. -/
lemma MetagraphSnapshot.Valid.epoch_eq (h : snapshot.Valid lib) : snapshot.epoch = snapshot.block / snapshot.tempo := by
  rw [MetagraphSnapshot.epoch, max_eq_left h.tempo.1]

/-- Validity does not depend on the order of the neurons. -/
lemma MetagraphSnapshot.Valid.perm (h : snapshot.Valid lib) (hperm : snapshot.neurons.Perm neurons) :
    MetagraphSnapshot.Valid lib { snapshot with neurons } where
  network := h.network
  netuid := h.netuid
  block := h.block
  tempo := h.tempo
  finalized := h.finalized
  size := ⟨fun hnil => h.size.1 (List.Perm.eq_nil (hnil ▸ hperm)), hperm.length_eq ▸ h.size.2⟩
  neurons := fun neuron hneuron => h.neurons neuron (hperm.mem_iff.mpr hneuron)
  uids := (hperm.map _).nodup_iff.mp h.uids
  hotkeys := (hperm.map _).nodup_iff.mp h.hotkeys

/-- **The fingerprint does not depend on the order of the neurons.** -/
theorem MetagraphSnapshot.Valid.fingerprint_perm (h : snapshot.Valid lib) (hperm : snapshot.neurons.Perm neurons) :
    MetagraphSnapshot.fingerprint lib { snapshot with neurons } = snapshot.fingerprint lib := by
  have hkeys : ((snapshot.identities lib).map identityKey).Nodup := by
    have hmap : (snapshot.identities lib).map identityKey =
        snapshot.neurons.map fun neuron => toLex (neuron.uid, neuron.hotkey) := List.map_map ..
    rw [hmap]
    refine List.Nodup.of_map (fun k => (ofLex k).1) ?_
    rw [List.map_map]
    exact h.uids
  have hsort : Sorting.sortOn identityKey (snapshot.identities lib) =
      Sorting.sortOn identityKey (MetagraphSnapshot.identities lib { snapshot with neurons }) :=
    Sorting.sortOn_congr (hperm.map _) hkeys
  rw [MetagraphSnapshot.fingerprint, MetagraphSnapshot.fingerprint, MetagraphSnapshot.document,
    MetagraphSnapshot.document, hsort]

end Order

end Weights

end Misscomputer
