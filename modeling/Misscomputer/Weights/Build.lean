import Misscomputer.Lib.Normalize
import Misscomputer.Weights.Metagraph
import Mathlib.Data.Finset.Insert
import Mathlib.Data.List.Perm.Basic

set_option relaxedAutoImplicit false
set_option autoImplicit false

/-!
# Building a plan

The rows of a dry run name miners by hotkey. A plan is built from them against one finalized snapshot: the rows of positive
weight, each with the UID of its neuron, in ascending order and normalized.

## Main definitions

* `Weights.readRow`, `Weights.addRow` — a row, and the loop that collects the rows.
* `Weights.buildWeightPlan` — the plan of the rows.
* `Weights.eligibleWeightTargets` — the neurons a decision has to judge.

## Main results

* `Weights.buildWeightPlan_eq_ok` — the plan, exactly.

## References

* `src/misscomputer_subnet/weight_plan.py` (`_weight_rows`, `build_weight_plan`, `eligible_weight_targets`)
-/

namespace Misscomputer

namespace Weights

/-! ## Rows -/

/-- `_weight_rows`. -/
def weightRows : Value → Except PlanError (List Value)
  | .list items =>
    if items.length = 0 ∨ maxWeightPlanNeurons < items.length then
      .error (.weightPlan "weight rows are empty or too large")
    else .ok items
  | _ => .error (.weightPlan "weight rows must be a JSON array")

/-- `item.get(key)`. -/
def getItem (members : Dict (List Char) Value) (key : String) : Value := (members.get key.toList).getD .null

/-- The object of a row. -/
def rowObject : Value → Except PlanError (Dict (List Char) Value)
  | .dict members => .ok members
  | _ => .error (.weightPlan "weight row is not an object")

/-- The weight of a row. An integer that is too large for a floating-point number overflows. -/
def rowWeight (raw : Value) : Except PlanError ℚ :=
  match raw with
  | .int _ | .float _ => do
    match ← toFloat raw with
    | .finite q =>
      if 0 ≤ q ∧ q ≤ 1 then .ok q else .error (.weightPlan "weight value is non-finite or out of range")
    | .nonFinite => .error (.weightPlan "weight value is non-finite or out of range")
  | _ => .error (.weightPlan "weight value is not a JSON number")

/-- The neuron of a row. -/
def rowNeuron (neuron : Option NeuronRecord) : Except PlanError NeuronRecord :=
  match neuron with
  | none => .error (.weightPlan "weight hotkey is absent from the finalized snapshot")
  | some neuron => .ok neuron

/-- What the loop over the rows has collected. -/
structure RowState where
  seenHotkeys : List (List Char)
  positive : List (ℤ × List Char × ℚ)

/-- Texts are compared character by character. -/
local instance lawfulBEq_hotkeys : @LawfulBEq (List Char) List.instBEq := inferInstance

/-- One round of the loop over the rows. -/
def addRow (byHotkey : List Char → Option NeuronRecord) (validatorHotkey : List Char) (state : RowState)
    (item : Value) : Except PlanError RowState := do
  let members ← rowObject item
  let hotkey ← validateText "weight hotkey" 256 (getItem members "miner_hotkey")
  let _ ← require (hotkey.1 ∉ state.seenHotkeys) "weight rows contain a duplicate hotkey"
  let weight ← rowWeight (getItem members "weight")
  let neuron ← rowNeuron (byHotkey hotkey.1)
  let _ ← require (hotkey.1 ≠ validatorHotkey ∧ neuron.active = true) "weight target is not an active miner"
  return { seenHotkeys := state.seenHotkeys ++ [hotkey.1],
           positive := if 0 < weight then state.positive ++ [(neuron.uid, hotkey.1, weight)] else state.positive }

/-! ## The plan -/

/-- The order of the positive rows: `(item[0], item[1])`. -/
def rowKey (item : ℤ × List Char × ℚ) : ℤ ×ₗ List Char := toLex (item.1, item.2.1)

/-- The entry of a row with its normalized weight. -/
def rowEntry (item : (ℤ × List Char × ℚ) × ℚ) : Except PlanError WeightPlanEntry :=
  WeightPlanEntry.make (.int item.1.1) (.str item.1.2.1) (.float (.finite item.2))

/-- The plan of the positive rows: what `build_weight_plan` does after its loop. -/
def planRows (lib : Library) (snapshot : MetagraphSnapshot) (validatorHotkey fingerprint : List Char)
    (positive : List (ℤ × List Char × ℚ)) (versionKey : ℤ) : Except PlanError (WeightPlan lib) := do
  let _ ← require (positive ≠ []) "weight rows contain no positive targets"
  let positive := Sorting.sortOn rowKey positive
  let _ ← require (positive.map fun item => item.1).Nodup "weight rows resolve to duplicate UIDs"
  let weights : List ℚ := positive.map fun item => item.2.2
  let _ ← require (0 < weights.sum) "weight total is invalid"
  let entries ← (positive.zip (Normalize.normalize weights)).mapM rowEntry
  let planSnapshot ← WeightPlanSnapshot.make (.int snapshot.block) (.int snapshot.tempo) (.int snapshot.epoch)
    (.bool snapshot.finalized) (.str fingerprint)
  let expiry ← conservativeExpiryBlock snapshot
  WeightPlan.make lib (.str snapshot.network) (.int snapshot.netuid) (.str validatorHotkey) planSnapshot entries
    (.int versionKey) (.int snapshot.block) (.int expiry)

/-- A validator that is active and has a permit. -/
def IsPermitted (validator : Option NeuronRecord) : Prop :=
  ∃ neuron, validator = some neuron ∧ neuron.active = true ∧ neuron.validatorPermit = true

instance (validator : Option NeuronRecord) : Decidable (IsPermitted validator) :=
  match validator with
  | none => isFalse (by simp [IsPermitted])
  | some neuron => decidable_of_iff (neuron.active = true ∧ neuron.validatorPermit = true) (by simp [IsPermitted])

/-- `{neuron.hotkey: neuron for neuron in snapshot.neurons}`. -/
def neuronsByHotkey (snapshot : MetagraphSnapshot) : Dict (List Char) NeuronRecord :=
  Dict.lasts (snapshot.neurons.map fun neuron => (neuron.hotkey, neuron))

/-- `build_weight_plan`. -/
def buildWeightPlan (lib : Library) (snapshot : MetagraphSnapshot) (validatorHotkey : List Char) (rows : Value)
    (versionKey : ℤ) : Except PlanError (WeightPlan lib) := do
  let validatorHotkey ← validateText "validator hotkey" 256 (.str validatorHotkey)
  let fingerprint ← snapshotIdentityFingerprint lib snapshot
  let byHotkey := neuronsByHotkey snapshot
  let _ ← require (IsPermitted (byHotkey.get validatorHotkey.1))
    "validator hotkey is absent, inactive, or lacks a permit in the snapshot"
  let items ← weightRows rows
  let state ← items.foldlM (addRow byHotkey.get validatorHotkey.1) { seenHotkeys := [], positive := [] }
  planRows lib snapshot validatorHotkey.1 fingerprint state.positive versionKey

/-- One round of the loop over the neurons. -/
def addTarget (lib : Library) (validatorHotkey : List Char) (targets : Finset (ℤ × List Char))
    (neuron : NeuronRecord) : Except PlanError (Finset (ℤ × List Char)) := do
  let (uid, hotkey, _) ← validateSnapshotNeuron lib neuron
  return if hotkey ≠ validatorHotkey ∧ neuron.active = true then insert (uid, hotkey) targets else targets

/-- `eligible_weight_targets`. -/
def eligibleWeightTargets (lib : Library) (snapshot : MetagraphSnapshot) (validatorHotkey : List Char) :
    Except PlanError (Finset (ℤ × List Char)) := do
  let validatorHotkey ← validateText "validator hotkey" 256 (.str validatorHotkey)
  snapshot.neurons.foldlM (addTarget lib validatorHotkey.1) ∅

/-! ## The loop over the rows -/

/-- What a row says: a miner's hotkey and its weight. -/
structure Row where
  hotkey : List Char
  weight : ℚ

/-- The item reads as the row. -/
def Row.Reads (row : Row) (item : Value) : Prop :=
  ∃ members, item = .dict members ∧ getItem members "miner_hotkey" = .str row.hotkey ∧
    rowWeight (getItem members "weight") = .ok row.weight

/-- The row is of an active miner. -/
def Row.Accepted (byHotkey : List Char → Option NeuronRecord) (validatorHotkey : List Char) (row : Row) : Prop :=
  IsText 256 row.hotkey ∧ row.hotkey ≠ validatorHotkey ∧
    ∃ neuron, byHotkey row.hotkey = some neuron ∧ neuron.active = true

/-- What a row adds to the plan. -/
def Row.target (byHotkey : List Char → Option NeuronRecord) (row : Row) : Option (ℤ × List Char × ℚ) :=
  if 0 < row.weight then (byHotkey row.hotkey).map fun neuron => (neuron.uid, row.hotkey, row.weight) else none

section Rows

variable {byHotkey : List Char → Option NeuronRecord} {validatorHotkey : List Char}

lemma rowObject_eq_ok {item : Value} {members : Dict (List Char) Value} :
    rowObject item = .ok members ↔ item = .dict members := by
  cases item with
  | dict m => simp [rowObject]
  | _ => simp [rowObject]

lemma rowNeuron_eq_ok {found : Option NeuronRecord} {neuron : NeuronRecord} :
    rowNeuron found = .ok neuron ↔ found = some neuron := by
  cases found with
  | none => simp [rowNeuron]
  | some n => simp [rowNeuron]

/-- The weight of a row is between zero and one. -/
lemma rowWeight_range {raw : Value} {q : ℚ} (h : rowWeight raw = .ok q) : 0 ≤ q ∧ q ≤ 1 := by
  have hfinite : ∀ x : Double, (match x with
      | .finite q => if 0 ≤ q ∧ q ≤ 1 then (.ok q : Except PlanError ℚ)
        else .error (.weightPlan "weight value is non-finite or out of range")
      | .nonFinite => .error (.weightPlan "weight value is non-finite or out of range")) = .ok q → 0 ≤ q ∧ q ≤ 1 := by
    intro x hx
    cases x with
    | nonFinite => cases hx
    | finite p =>
      simp only at hx
      split at hx
      · rename_i hrange
        rw [← Except.ok.inj hx]
        exact hrange
      · cases hx
  cases raw with
  | int n =>
    obtain ⟨x, -, hx⟩ := Except.bind_eq_ok.mp h
    exact hfinite x hx
  | float y =>
    obtain ⟨x, -, hx⟩ := Except.bind_eq_ok.mp h
    exact hfinite x hx
  | _ => cases h

/-- **One round** adds a row with a new hotkey. -/
lemma addRow_eq_ok {state state' : RowState} {item : Value} :
    addRow byHotkey validatorHotkey state item = .ok state' ↔ ∃ row : Row, row.Reads item ∧
      row.Accepted byHotkey validatorHotkey ∧ row.hotkey ∉ state.seenHotkeys ∧
      state' = { seenHotkeys := state.seenHotkeys ++ [row.hotkey],
                 positive := state.positive ++ (row.target byHotkey).toList } := by
  simp only [addRow, Except.bind_eq_ok, rowObject_eq_ok, validateText_eq_ok, require_eq_ok, rowNeuron_eq_ok]
  have hadd : ∀ (hotkey : List Char) (weight : ℚ) (neuron : NeuronRecord), byHotkey hotkey = some neuron →
      (if 0 < weight then state.positive ++ [(neuron.uid, hotkey, weight)] else state.positive) =
        state.positive ++ ((Row.mk hotkey weight).target byHotkey).toList := by
    intro hotkey weight neuron hneuron
    rw [Row.target, hneuron]
    by_cases hpos : 0 < weight
    · rw [if_pos hpos, if_pos hpos]
      rfl
    · rw [if_neg hpos, if_neg hpos]
      simp
  constructor
  · rintro ⟨members, rfl, hotkey, hhotkey, -, hnew, weight, hweight, neuron, hneuron, -, ⟨hne, hactive⟩, heq⟩
    obtain rfl := Except.ok.inj heq
    refine ⟨⟨hotkey.1, weight⟩, ⟨members, rfl, hhotkey, hweight⟩, ⟨hotkey.2, hne, neuron, hneuron, hactive⟩, hnew, ?_⟩
    rw [hadd _ _ _ hneuron]
  · rintro ⟨⟨hotkey, weight⟩, ⟨members, rfl, hhotkey, hweight⟩, ⟨htext, hne, neuron, hneuron, hactive⟩, hnew, rfl⟩
    refine ⟨members, rfl, ⟨hotkey, htext⟩, hhotkey, ⟨hnew⟩, hnew, weight, hweight, neuron, hneuron,
      ⟨⟨hne, hactive⟩⟩, ⟨hne, hactive⟩, ?_⟩
    rw [← hadd _ _ _ hneuron]
    rfl

/-- **The loop over the rows** returns when every item reads as a row of an active miner and no hotkey occurs twice.

**Proof sketch.** Induction on the items, over the hotkeys seen so far. -/
lemma foldlM_addRow {items : List Value} {state state' : RowState} (hseen : state.seenHotkeys.Nodup) :
    items.foldlM (addRow byHotkey validatorHotkey) state = .ok state' ↔ ∃ rows : List Row,
      List.Forall₂ (fun item row => row.Reads item) items rows ∧
      (∀ row ∈ rows, row.Accepted byHotkey validatorHotkey) ∧
      (state.seenHotkeys ++ rows.map Row.hotkey).Nodup ∧
      state' = { seenHotkeys := state.seenHotkeys ++ rows.map Row.hotkey,
                 positive := state.positive ++ rows.filterMap (Row.target byHotkey) } := by
  induction items generalizing state with
  | nil =>
    change Except.ok state = .ok state' ↔ _
    constructor
    · intro h
      obtain rfl := Except.ok.inj h
      exact ⟨[], .nil, by simp, by simpa using hseen, by simp⟩
    · rintro ⟨rows, hrows, -, -, rfl⟩
      obtain rfl := List.forall₂_nil_left_iff.mp hrows
      simp
  | cons item items ih =>
    rw [List.foldlM_cons]
    simp only [Except.bind_eq_ok, addRow_eq_ok]
    have hnext : ∀ row : Row, row.hotkey ∉ state.seenHotkeys → (state.seenHotkeys ++ [row.hotkey]).Nodup := by
      intro row hrow
      rw [List.nodup_append]
      refine ⟨hseen, List.nodup_singleton _, ?_⟩
      intro a ha b hb hab
      rw [List.mem_singleton.mp hb] at hab
      exact hrow (hab ▸ ha)
    constructor
    · rintro ⟨_, ⟨row, hreads, haccepted, hnew, rfl⟩, hrest⟩
      obtain ⟨rows, hrows, hall, hnodup, rfl⟩ := (ih (hnext row hnew)).mp hrest
      refine ⟨row :: rows, .cons hreads hrows, List.forall_mem_cons.mpr ⟨haccepted, hall⟩, ?_, ?_⟩
      · simpa using hnodup
      · cases htarget : row.target byHotkey with
        | none => simp [htarget]
        | some t => simp [htarget]
    · rintro ⟨rows, hrows, hall, hnodup, rfl⟩
      obtain ⟨row, rows, hreads, hrest, rfl⟩ := List.forall₂_cons_left_iff.mp hrows
      obtain ⟨haccepted, hall⟩ := List.forall_mem_cons.mp hall
      have hnew : row.hotkey ∉ state.seenHotkeys := by
        rw [List.nodup_append] at hnodup
        exact fun h => hnodup.2.2 _ h _ (List.mem_map_of_mem List.mem_cons_self) rfl
      refine ⟨_, ⟨row, hreads, haccepted, hnew, rfl⟩, (ih (hnext row hnew)).mpr ⟨rows, hrest, hall, ?_, ?_⟩⟩
      · simpa using hnodup
      · cases htarget : row.target byHotkey with
        | none => simp [htarget]
        | some t => simp [htarget]

end Rows

/-! ## The plan of the positive rows -/

/-- An entry as a row. -/
def WeightPlanEntry.row (entry : WeightPlanEntry) : ℤ × List Char × ℚ := (entry.uid, entry.hotkey, entry.weight)

/-- The positive rows in order, with normalized weights. -/
def normalizedRows (positive : List (ℤ × List Char × ℚ)) : List (ℤ × List Char × ℚ) :=
  (Sorting.sortOn rowKey positive).map fun item =>
    (item.1, item.2.1, item.2.2 / (positive.map fun item => item.2.2).sum)

/-- What the plan of some positive rows has to be. -/
structure PlanOf (lib : Library) (snapshot : MetagraphSnapshot) (validatorHotkey fingerprint : List Char)
    (positive : List (ℤ × List Char × ℚ)) (versionKey : ℤ) (plan : WeightPlan lib) : Prop where
  ne : positive ≠ []
  uids : (positive.map fun item => item.1).Nodup
  total : 0 < (positive.map fun item => item.2.2).sum
  entries : plan.weights.map WeightPlanEntry.row = normalizedRows positive
  block : plan.snapshot.block = snapshot.block
  tempo : plan.snapshot.tempo = snapshot.tempo
  epoch : plan.snapshot.epoch = snapshot.epoch
  finalized : plan.snapshot.finalized = snapshot.finalized
  fingerprint : plan.snapshot.identityFingerprint = .str fingerprint
  expiry : conservativeExpiryBlock snapshot = .ok plan.expiresAtBlock
  network : plan.network = snapshot.network
  netuid : plan.netuid = snapshot.netuid
  validator : plan.validatorHotkey = validatorHotkey
  version : plan.versionKey = versionKey
  created : plan.createdBlock = snapshot.block

section PlanRows

variable {lib : Library} {snapshot : MetagraphSnapshot} {validatorHotkey fingerprint : List Char}
  {positive : List (ℤ × List Char × ℚ)} {versionKey : ℤ} {plan : WeightPlan lib}

lemma rowEntry_eq_ok {item : (ℤ × List Char × ℚ) × ℚ} {entry : WeightPlanEntry} :
    rowEntry item = .ok entry ↔ (item.1.1, item.1.2.1, item.2) = entry.row := by
  rw [rowEntry, WeightPlanEntry.make_eq_ok]
  simp [WeightPlanEntry.row, toFloat]

/-- The loop over the entries returns the entries with the fields of the rows. -/
lemma mapM_rowEntry {items : List ((ℤ × List Char × ℚ) × ℚ)} {entries : List WeightPlanEntry} :
    items.mapM rowEntry = .ok entries ↔
      entries.map WeightPlanEntry.row = items.map fun item => (item.1.1, item.1.2.1, item.2) := by
  rw [Contract.mapM_eq_ok_iff]
  simp only [rowEntry_eq_ok]
  rw [eq_comm, ← List.forall₂_eq_eq_eq, List.forall₂_map_left_iff, List.forall₂_map_right_iff]

/-- The sorted rows, each with its normalized weight. -/
lemma zip_normalize (h : 0 < (positive.map fun item => item.2.2).sum) :
    ((Sorting.sortOn rowKey positive).zip
      (Normalize.normalize ((Sorting.sortOn rowKey positive).map fun item => item.2.2))).map
        (fun item => (item.1.1, item.1.2.1, item.2)) = normalizedRows positive := by
  have hsum : ((Sorting.sortOn rowKey positive).map fun item => item.2.2).sum =
      (positive.map fun item => item.2.2).sum := ((Sorting.sortOn_perm rowKey positive).map _).sum_eq
  rw [Normalize.normalize_eq (by rw [hsum]; exact h.ne'), hsum, normalizedRows, List.map_map]
  induction Sorting.sortOn rowKey positive with
  | nil => rfl
  | cons item items ih => simp [ih]

/-- **The plan of the positive rows.** -/
lemma planRows_eq_ok : planRows lib snapshot validatorHotkey fingerprint positive versionKey = .ok plan ↔
    PlanOf lib snapshot validatorHotkey fingerprint positive versionKey plan := by
  have hsum : ((Sorting.sortOn rowKey positive).map fun item => item.2.2).sum =
      (positive.map fun item => item.2.2).sum := ((Sorting.sortOn_perm rowKey positive).map _).sum_eq
  have huids : ((Sorting.sortOn rowKey positive).map fun item => item.1).Nodup ↔
      (positive.map fun item => item.1).Nodup := ((Sorting.sortOn_perm rowKey positive).map _).nodup_iff
  simp only [planRows, Except.bind_eq_ok, require_eq_ok, mapM_rowEntry, WeightPlanSnapshot.make_eq_ok,
    WeightPlan.make_eq_ok, huids, hsum]
  constructor
  · rintro ⟨-, hne, -, hnodup, -, htotal, entries, hentries, planSnapshot, ⟨hblock, htempo, hepoch, hfinal, hfp⟩, expiry,
      hexpiry, hnetwork, hnetuid, hvalidator, rfl, rfl, hversion, hcreated, hexpires⟩
    rw [zip_normalize htotal] at hentries
    injection hblock with hblock
    injection htempo with htempo
    injection hepoch with hepoch
    injection hfinal with hfinal
    injection hnetwork with hnetwork
    injection hnetuid with hnetuid
    injection hvalidator with hvalidator
    injection hversion with hversion
    injection hcreated with hcreated
    injection hexpires with hexpires
    subst hexpires
    exact ⟨hne, hnodup, htotal, hentries, hblock.symm, htempo.symm, hepoch.symm, hfinal.symm, hfp.symm, hexpiry,
      hnetwork.symm, hnetuid.symm, hvalidator.symm, hversion.symm, hcreated.symm⟩
  · intro h
    refine ⟨⟨h.ne⟩, h.ne, ⟨huids.mpr h.uids⟩, h.uids, ⟨hsum.symm ▸ h.total⟩, h.total, plan.weights, ?_, plan.snapshot,
      ?_, plan.expiresAtBlock, h.expiry, ?_, ?_, ?_, rfl, rfl, ?_, ?_, rfl⟩
    · rw [zip_normalize h.total, h.entries]
    · rw [h.block, h.tempo, h.epoch, h.finalized, h.fingerprint]
      exact ⟨rfl, rfl, rfl, rfl, rfl⟩
    · rw [h.network]
    · rw [h.netuid]
    · rw [h.validator]
    · rw [h.version]
    · rw [h.created]

/-- Positive rows in another order have the same plan. -/
lemma PlanOf.perm {positive' : List (ℤ × List Char × ℚ)}
    (h : PlanOf lib snapshot validatorHotkey fingerprint positive versionKey plan) (hperm : positive.Perm positive') :
    PlanOf lib snapshot validatorHotkey fingerprint positive' versionKey plan := by
  have hkeys : (positive.map rowKey).Nodup := by
    refine List.Nodup.of_map (fun k => (ofLex k).1) ?_
    rw [List.map_map]
    exact h.uids
  have hsum := (hperm.map fun item : ℤ × List Char × ℚ => item.2.2).sum_eq
  exact { h with
    ne := fun hnil => h.ne (List.Perm.eq_nil (hnil ▸ hperm))
    uids := (hperm.map _).nodup_iff.mp h.uids
    total := hsum ▸ h.total
    entries := by rw [h.entries, normalizedRows, normalizedRows, Sorting.sortOn_congr hperm hkeys, hsum] }

end PlanRows

/-! ## The plan of a snapshot -/

section Build

variable {lib : Library} {snapshot : MetagraphSnapshot} {validatorHotkey : List Char} {versionKey : ℤ}

/-- In a valid snapshot the dictionary of neurons holds the neuron with each hotkey. -/
lemma get_neuronsByHotkey (h : (snapshot.neurons.map NeuronRecord.hotkey).Nodup) {hotkey : List Char}
    {neuron : NeuronRecord} :
    (neuronsByHotkey snapshot).get hotkey = some neuron ↔ neuron ∈ snapshot.neurons ∧ neuron.hotkey = hotkey := by
  constructor
  · intro hget
    obtain ⟨n, hn, heq⟩ := List.mem_map.mp (Dict.mem_of_get_lasts hget)
    obtain ⟨rfl, rfl⟩ := Prod.mk.inj heq
    exact ⟨hn, rfl⟩
  · rintro ⟨hneuron, rfl⟩
    exact Dict.get_lasts_map h hneuron

lemma mem_of_byHotkey {hotkey : List Char} {neuron : NeuronRecord} (h : snapshot.byHotkey hotkey = some neuron) :
    neuron ∈ snapshot.neurons ∧ neuron.hotkey = hotkey := by
  have hkey := List.find?_some (p := fun n : NeuronRecord => decide (n.hotkey = hotkey)) h
  exact ⟨List.mem_of_find?_eq_some h, of_decide_eq_true hkey⟩

/-- It is the snapshot's own search by hotkey. -/
lemma get_neuronsByHotkey_eq (h : (snapshot.neurons.map NeuronRecord.hotkey).Nodup) (hotkey : List Char) :
    (neuronsByHotkey snapshot).get hotkey = snapshot.byHotkey hotkey := by
  ext neuron
  rw [get_neuronsByHotkey h]
  constructor
  · rintro ⟨hneuron, rfl⟩
    obtain ⟨n, hn⟩ : ∃ n, snapshot.byHotkey neuron.hotkey = some n := by
      rw [← Option.isSome_iff_exists, MetagraphSnapshot.byHotkey, List.find?_isSome]
      exact ⟨neuron, hneuron, decide_eq_true rfl⟩
    obtain ⟨hmem, hkey⟩ := mem_of_byHotkey hn
    rw [hn, List.inj_on_of_nodup_map h hmem hneuron hkey]
  · intro hfind
    exact mem_of_byHotkey hfind

/-- The neurons in another order have the same dictionary. -/
lemma get_neuronsByHotkey_perm (h : (snapshot.neurons.map NeuronRecord.hotkey).Nodup) {neurons : List NeuronRecord}
    (hperm : snapshot.neurons.Perm neurons) :
    (neuronsByHotkey { snapshot with neurons }).get = (neuronsByHotkey snapshot).get := by
  have h' : (({ snapshot with neurons } : MetagraphSnapshot).neurons.map NeuronRecord.hotkey).Nodup :=
    (hperm.map _).nodup_iff.mp h
  funext hotkey
  ext neuron
  rw [get_neuronsByHotkey h, get_neuronsByHotkey h']
  exact and_congr_left fun _ => hperm.mem_iff.symm

/-- What the rows of a plan have to be: at least one and not too many, each of an active miner, no hotkey twice. -/
structure Accepts (snapshot : MetagraphSnapshot) (validatorHotkey : List Char) (items : List Value) (rows : List Row) :
    Prop where
  size : items ≠ [] ∧ items.length ≤ maxWeightPlanNeurons
  reads : List.Forall₂ (fun item row => row.Reads item) items rows
  accepted : ∀ row ∈ rows, row.Accepted (neuronsByHotkey snapshot).get validatorHotkey
  nodup : (rows.map Row.hotkey).Nodup

lemma weightRows_eq_ok {rows : Value} {items : List Value} :
    weightRows rows = .ok items ↔ rows = .list items ∧ items ≠ [] ∧ items.length ≤ maxWeightPlanNeurons := by
  cases rows with
  | list l =>
    rw [weightRows]
    split
    · rename_i hbad
      simp only [reduceCtorEq, Value.list.injEq, false_iff]
      rintro ⟨rfl, hne, hlength⟩
      rcases hbad with hnil | hlong
      · exact hne (List.length_eq_zero_iff.mp hnil)
      · omega
    · rename_i hgood
      rw [Except.ok.injEq, Value.list.injEq]
      constructor
      · rintro rfl
        refine ⟨rfl, fun hnil => hgood (.inl (List.length_eq_zero_iff.mpr hnil)), ?_⟩
        omega
      · exact fun h => h.1
  | _ => simp [weightRows]

/-- **A plan is built** from rows that are accepted, and is the plan of the positive ones. -/
theorem buildWeightPlan_eq_ok {rows : Value} {plan : WeightPlan lib} :
    buildWeightPlan lib snapshot validatorHotkey rows versionKey = .ok plan ↔
      IsText 256 validatorHotkey ∧ snapshot.Valid lib ∧
      IsPermitted ((neuronsByHotkey snapshot).get validatorHotkey) ∧
      ∃ items rs, rows = .list items ∧ Accepts snapshot validatorHotkey items rs ∧
        PlanOf lib snapshot validatorHotkey (snapshot.fingerprint lib)
          (rs.filterMap (Row.target (neuronsByHotkey snapshot).get)) versionKey plan := by
  have hloop : ∀ (hotkey : List Char) (items : List Value) (state : RowState),
      items.foldlM (addRow (neuronsByHotkey snapshot).get hotkey) { seenHotkeys := [], positive := [] } = .ok state ↔
      ∃ rs : List Row, List.Forall₂ (fun item row => row.Reads item) items rs ∧
        (∀ row ∈ rs, row.Accepted (neuronsByHotkey snapshot).get hotkey) ∧ (rs.map Row.hotkey).Nodup ∧
        state = { seenHotkeys := rs.map Row.hotkey, positive := rs.filterMap (Row.target (neuronsByHotkey snapshot).get) } := by
    intro hotkey items state
    rw [foldlM_addRow List.nodup_nil]
    simp only [List.nil_append]
  simp only [buildWeightPlan, Except.bind_eq_ok, validateText_eq_ok, snapshotIdentityFingerprint_eq_ok, require_eq_ok,
    weightRows_eq_ok, hloop, planRows_eq_ok]
  constructor
  · rintro ⟨hotkey, hhotkey, fp, ⟨hvalid, rfl⟩, -, hpermitted, items, ⟨rfl, hne, hlength⟩, state,
      ⟨rs, hreads, haccepted, hnodup, rfl⟩, hplan⟩
    injection hhotkey with hhotkey
    rw [← hhotkey] at hpermitted haccepted hplan
    exact ⟨hhotkey ▸ hotkey.2, hvalid, hpermitted, items, rs, rfl, ⟨⟨hne, hlength⟩, hreads, haccepted, hnodup⟩, hplan⟩
  · rintro ⟨htext, hvalid, hpermitted, items, rs, rfl, h, hplan⟩
    exact ⟨⟨validatorHotkey, htext⟩, rfl, _, ⟨hvalid, rfl⟩, ⟨hpermitted⟩, hpermitted, items, ⟨rfl, h.size⟩, _,
      ⟨rs, h.reads, h.accepted, h.nodup, rfl⟩, hplan⟩

/-- Items and neurons in another order give the same plan. -/
lemma buildWeightPlan_perm {items items' : List Value} {neurons : List NeuronRecord} {plan : WeightPlan lib}
    (hitems : items.Perm items') (hneurons : snapshot.neurons.Perm neurons)
    (h : buildWeightPlan lib snapshot validatorHotkey (.list items) versionKey = .ok plan) :
    buildWeightPlan lib { snapshot with neurons } validatorHotkey (.list items') versionKey = .ok plan := by
  obtain ⟨htext, hvalid, hpermitted, items₀, rs, heq, hrows, hplan⟩ := buildWeightPlan_eq_ok.mp h
  obtain rfl := Value.list.inj heq
  have hget := get_neuronsByHotkey_perm hvalid.hotkeys hneurons
  obtain ⟨rs', hreads, hperm⟩ := List.perm_comp_forall₂ hitems.symm hrows.reads
  refine buildWeightPlan_eq_ok.mpr ⟨htext, hvalid.perm hneurons, hget ▸ hpermitted, items', rs', rfl, ?_, ?_⟩
  · refine ⟨⟨fun hnil => hrows.size.1 (List.Perm.eq_nil (hnil ▸ hitems)), hitems.length_eq ▸ hrows.size.2⟩, hreads, ?_, ?_⟩
    · intro row hrow
      rw [hget]
      exact hrows.accepted row (hperm.mem_iff.mp hrow)
    · exact (hperm.map _).nodup_iff.mpr hrows.nodup
  · rw [hget, hvalid.fingerprint_perm hneurons]
    have h := hplan.perm (hperm.symm.filterMap _)
    exact { h with
      block := h.block, tempo := h.tempo, epoch := h.epoch, finalized := h.finalized, fingerprint := h.fingerprint,
      expiry := h.expiry, network := h.network, netuid := h.netuid, validator := h.validator, version := h.version,
      created := h.created }

end Build

end Weights

end Misscomputer
