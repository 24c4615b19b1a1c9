import Misscomputer.Weights.Build
import Mathlib.Tactic.Ring

set_option relaxedAutoImplicit false
set_option autoImplicit false

/-!
# A plan is exact

What a plan says about the rows it was built from, whatever their order: its entries are the rows of positive weight, their
ratios are kept, and a single row is accepted for the miners a decision has to judge and for no others.

## Main definitions

* `Weights.positiveRows` — the rows of positive weight.
* `Weights.IsExact` — what the entries of a plan have to be.

## Main results

* `Weights.buildWeightPlan_isExact` — a plan that was built is exact.
* `Weights.mem_eligibleWeightTargets` — the targets are the active neurons other than the validator.
* `Weights.buildWeightPlan_independent_exact` — order independence, exactness and the eligibility rule together.

## References

* `src/misscomputer_subnet/weight_plan.py` (`build_weight_plan`, `eligible_weight_targets`)
-/

namespace Misscomputer

namespace Weights

/-! ## What the rows say -/

/-- The row an item of the rows stands for. -/
def readRow : Value → Option Row
  | .dict members =>
    match getItem members "miner_hotkey", rowWeight (getItem members "weight") with
    | .str hotkey, .ok weight => some ⟨hotkey, weight⟩
    | _, _ => none
  | _ => none

/-- The rows of positive weight. -/
def positiveRows (items : List Value) : List Row := (items.filterMap readRow).filter fun row => 0 < row.weight

/-- What the entries of a plan have to be: the positive rows, each with the UID of its neuron, ascending, with the ratios of
the rows and the sum one. -/
structure IsExact {lib : Library} (snapshot : MetagraphSnapshot) (items : List Value) (plan : WeightPlan lib) : Prop where
  readable : ∀ item ∈ items, (readRow item).isSome = true
  hotkeys : (plan.weights.map WeightPlanEntry.hotkey).Perm ((positiveRows items).map Row.hotkey)
  uids : ∀ entry ∈ plan.weights, ∃ neuron, snapshot.byHotkey entry.hotkey = some neuron ∧ entry.uid = neuron.uid
  ascending : (plan.weights.map WeightPlanEntry.uid).Pairwise (· < ·)
  ratios : ∀ a ∈ plan.weights, ∀ b ∈ plan.weights, ∀ r ∈ positiveRows items, ∀ s ∈ positiveRows items,
    r.hotkey = a.hotkey → s.hotkey = b.hotkey → a.weight * s.weight = b.weight * r.weight
  total : (plan.weights.map WeightPlanEntry.weight).sum = 1

section Rows

lemma reads_iff {row : Row} {item : Value} : row.Reads item ↔ readRow item = some row := by
  constructor
  · rintro ⟨members, rfl, hhotkey, hweight⟩
    simp only [readRow, hhotkey, hweight]
  · intro h
    unfold readRow at h
    split at h
    · rename_i members
      split at h
      · rename_i hotkey weight hhotkey hweight
        obtain rfl := Option.some.inj h
        exact ⟨members, rfl, hhotkey, hweight⟩
      · cases h
    · cases h

/-- The rows are the readings of the items. -/
lemma filterMap_readRow {items : List Value} {rows : List Row}
    (h : List.Forall₂ (fun item row => row.Reads item) items rows) :
    items.filterMap readRow = rows ∧ ∀ item ∈ items, (readRow item).isSome = true := by
  induction h with
  | nil => exact ⟨rfl, by simp⟩
  | cons hreads _ ih =>
    rw [reads_iff] at hreads
    refine ⟨?_, ?_⟩
    · rw [List.filterMap_cons_some hreads, ih.1]
    · rw [List.forall_mem_cons, hreads]
      exact ⟨rfl, ih.2⟩

variable {byHotkey : List Char → Option NeuronRecord} {validatorHotkey : List Char} {rows : List Row}

/-- The row of positive weight behind a target. -/
lemma mem_targets {t : ℤ × List Char × ℚ} (ht : t ∈ rows.filterMap (Row.target byHotkey)) :
    ∃ row ∈ rows, 0 < row.weight ∧ ∃ neuron, byHotkey row.hotkey = some neuron ∧
      t = (neuron.uid, row.hotkey, row.weight) := by
  obtain ⟨row, hrow, htarget⟩ := List.mem_filterMap.mp ht
  rw [Row.target] at htarget
  split at htarget
  · rename_i hpos
    obtain ⟨neuron, hneuron, rfl⟩ := Option.map_eq_some_iff.mp htarget
    exact ⟨row, hrow, hpos, neuron, hneuron, rfl⟩
  · cases htarget

/-- The targets have the hotkeys and weights of the positive rows. -/
lemma map_targets (h : ∀ row ∈ rows, row.Accepted byHotkey validatorHotkey) :
    (rows.filterMap (Row.target byHotkey)).map (fun t => t.2) =
      (rows.filter fun row => 0 < row.weight).map fun row => (row.hotkey, row.weight) := by
  induction rows with
  | nil => rfl
  | cons row rows ih =>
    obtain ⟨⟨-, -, neuron, hneuron, -⟩, hrows⟩ := List.forall_mem_cons.mp h
    rw [List.filter_cons, List.filterMap_cons, Row.target, hneuron]
    by_cases hpos : 0 < row.weight
    · simp [hpos, ih hrows]
    · simp [hpos, ih hrows]

end Rows

/-! ## Exactness -/

section Exact

variable {lib : Library} {snapshot : MetagraphSnapshot} {validatorHotkey : List Char} {versionKey : ℤ}

/-- **A plan that was built is exact.**

**Proof sketch.** The entries are the sorted targets, divided by their total. A hotkey occurs in one row only, so the
weight of an entry is that of its row over the total. -/
theorem buildWeightPlan_isExact {items : List Value} {plan : WeightPlan lib}
    (h : buildWeightPlan lib snapshot validatorHotkey (.list items) versionKey = .ok plan) :
    IsExact snapshot items plan := by
  obtain ⟨-, hvalid, -, items₀, rows, heq, hrows, hplan⟩ := buildWeightPlan_eq_ok.mp h
  obtain rfl := Value.list.inj heq
  obtain ⟨hreadings, hreadable⟩ := filterMap_readRow hrows.reads
  have hentries := hplan.entries
  have htotal := hplan.total
  set positive := rows.filterMap (Row.target (neuronsByHotkey snapshot).get) with hpositive
  set total := (positive.map fun item => item.2.2).sum with hsum
  have hpos : positiveRows items = rows.filter fun row => 0 < row.weight := by rw [positiveRows, hreadings]
  have htargets := map_targets hrows.accepted
  have hnodup : ((positiveRows items).map Row.hotkey).Nodup := by
    rw [hpos]
    exact hrows.nodup.sublist (List.filter_sublist.map Row.hotkey)
  -- the row and the neuron behind an entry
  have hentry : ∀ entry ∈ plan.weights, ∃ row ∈ positiveRows items, ∃ neuron,
      (neuronsByHotkey snapshot).get row.hotkey = some neuron ∧ entry.uid = neuron.uid ∧ entry.hotkey = row.hotkey ∧
        entry.weight = row.weight / total := by
    intro entry hmem
    have hrow : entry.row ∈ normalizedRows positive := by
      rw [← hentries]
      exact List.mem_map_of_mem hmem
    obtain ⟨t, ht, heq⟩ := List.mem_map.mp hrow
    obtain ⟨row, hrow, hweight, neuron, hneuron, rfl⟩ := mem_targets (Sorting.mem_sortOn.mp ht)
    obtain ⟨huid, hrest⟩ := Prod.mk.inj heq
    obtain ⟨hhotkey, hquotient⟩ := Prod.mk.inj hrest
    refine ⟨row, ?_, neuron, hneuron, huid.symm, hhotkey.symm, hquotient.symm⟩
    rw [hpos]
    exact List.mem_filter.mpr ⟨hrow, decide_eq_true hweight⟩
  refine ⟨hreadable, ?_, ?_, plan.uids_ascending, ?_, ?_⟩
  · have hmap : plan.weights.map WeightPlanEntry.hotkey = (normalizedRows positive).map fun t => t.2.1 := by
      rw [← hentries, List.map_map]
      rfl
    have hrows : (positiveRows items).map Row.hotkey = positive.map fun t => t.2.1 := by
      have := congrArg (List.map Prod.fst) htargets
      rw [List.map_map, List.map_map] at this
      rw [hpos]
      exact this.symm
    rw [hmap, hrows, normalizedRows, List.map_map]
    exact (Sorting.sortOn_perm rowKey positive).map _
  · intro entry hmem
    obtain ⟨row, -, neuron, hneuron, huid, hhotkey, -⟩ := hentry entry hmem
    rw [get_neuronsByHotkey_eq hvalid.hotkeys, ← hhotkey] at hneuron
    exact ⟨neuron, hneuron, huid⟩
  · intro a ha b hb r hr s hs hra hsb
    obtain ⟨r', hr', -, -, -, hhotkey, hweight⟩ := hentry a ha
    obtain ⟨s', hs', -, -, -, hhotkey', hweight'⟩ := hentry b hb
    obtain rfl := List.inj_on_of_nodup_map hnodup hr hr' (hra.trans hhotkey)
    obtain rfl := List.inj_on_of_nodup_map hnodup hs hs' (hsb.trans hhotkey')
    rw [hweight, hweight']
    ring
  · have hmap : plan.weights.map WeightPlanEntry.weight =
        ((Sorting.sortOn rowKey positive).map fun t => t.2.2).map fun w => w / total := by
      have := congrArg (List.map fun t : ℤ × List Char × ℚ => t.2.2) hentries
      rw [normalizedRows, List.map_map, List.map_map] at this
      rw [List.map_map]
      exact this
    have hsorted : ((Sorting.sortOn rowKey positive).map fun t => t.2.2).sum = total :=
      ((Sorting.sortOn_perm rowKey positive).map _).sum_eq
    rw [hmap, ← hsorted]
    exact Normalize.sum_map_div (by rw [hsorted]; exact htotal.ne')

/-! ## Eligible targets -/

/-- The loop over the neurons returns when all of them are valid, with the active ones other than the validator. -/
lemma foldlM_addTarget {neurons : List NeuronRecord} {targets result : Finset (ℤ × List Char)} :
    neurons.foldlM (addTarget lib validatorHotkey) targets = .ok result ↔ (∀ neuron ∈ neurons, neuron.Valid) ∧
      result = neurons.foldl (fun set neuron => if neuron.hotkey ≠ validatorHotkey ∧ neuron.active = true then
        insert (neuron.uid, neuron.hotkey) set else set) targets := by
  induction neurons generalizing targets with
  | nil =>
    change Except.ok targets = .ok result ↔ _
    rw [Except.ok.injEq]
    constructor
    · rintro rfl
      exact ⟨by simp, rfl⟩
    · exact fun h => h.2.symm
  | cons neuron neurons ih =>
    rw [List.foldlM_cons, Except.bind_eq_ok, List.forall_mem_cons, List.foldl_cons]
    simp only [addTarget, Except.bind_eq_ok, validateSnapshotNeuron_eq_ok, ih]
    constructor
    · rintro ⟨next, ⟨⟨uid, hotkey, identity⟩, ⟨hvalid, heq⟩, hnext⟩, hrest, rfl⟩
      obtain ⟨rfl, hpair⟩ := Prod.mk.inj heq
      obtain ⟨rfl, rfl⟩ := Prod.mk.inj hpair
      obtain rfl := Except.ok.inj hnext
      exact ⟨⟨hvalid, hrest⟩, rfl⟩
    · rintro ⟨⟨hvalid, hrest⟩, rfl⟩
      exact ⟨_, ⟨_, ⟨hvalid, rfl⟩, rfl⟩, hrest, rfl⟩

lemma mem_foldl_insert {neurons : List NeuronRecord} {targets : Finset (ℤ × List Char)} {x : ℤ × List Char} :
    x ∈ neurons.foldl (fun set neuron => if neuron.hotkey ≠ validatorHotkey ∧ neuron.active = true then
        insert (neuron.uid, neuron.hotkey) set else set) targets ↔
      x ∈ targets ∨ ∃ neuron ∈ neurons, neuron.hotkey ≠ validatorHotkey ∧ neuron.active = true ∧
        x = (neuron.uid, neuron.hotkey) := by
  induction neurons generalizing targets with
  | nil => simp
  | cons neuron neurons ih =>
    rw [List.foldl_cons, ih]
    by_cases hkeep : neuron.hotkey ≠ validatorHotkey ∧ neuron.active = true
    · rw [if_pos hkeep, Finset.mem_insert]
      simp only [List.exists_mem_cons_iff, hkeep.1, hkeep.2, ne_eq, not_false_eq_true, true_and]
      tauto
    · rw [if_neg hkeep]
      simp only [List.exists_mem_cons_iff]
      tauto

/-- **The eligible targets** of a valid snapshot are the active neurons other than the validator. -/
theorem mem_eligibleWeightTargets (hvalidator : IsText 256 validatorHotkey) (h : ∀ neuron ∈ snapshot.neurons, neuron.Valid) :
    ∃ targets, eligibleWeightTargets lib snapshot validatorHotkey = .ok targets ∧ ∀ x, x ∈ targets ↔
      ∃ neuron ∈ snapshot.neurons, neuron.hotkey ≠ validatorHotkey ∧ neuron.active = true ∧
        x = (neuron.uid, neuron.hotkey) := by
  refine ⟨_, Except.bind_eq_ok.mpr ⟨⟨validatorHotkey, hvalidator⟩, validateText_eq_ok.mpr rfl,
    foldlM_addTarget.mpr ⟨h, rfl⟩⟩, fun x => ?_⟩
  rw [mem_foldl_insert]
  simp

/-! ## A single row -/

/-- What a plan records of a valid snapshot. -/
def MetagraphSnapshot.Valid.planSnapshot (h : snapshot.Valid lib) : WeightPlanSnapshot where
  block := snapshot.block
  tempo := snapshot.tempo
  epoch := snapshot.epoch
  finalized := snapshot.finalized
  identityFingerprint := .str (snapshot.fingerprint lib)
  block_range := h.block
  tempo_range := h.tempo
  epoch_range := by
    have hpos : 0 < snapshot.tempo := by have := h.tempo.1; omega
    rw [h.epoch_eq]
    exact ⟨Int.ediv_nonneg h.block.1 hpos.le, (Int.ediv_le_self _ h.block.1).trans h.block.2⟩
  epoch_eq := h.epoch_eq
  finalized_eq := h.finalized
  fingerprint := isFingerprint_hexdigest _

/-- The entry of a valid neuron that has all the weight. -/
def NeuronRecord.Valid.entry {neuron : NeuronRecord} (h : neuron.Valid) : WeightPlanEntry where
  uid := neuron.uid
  hotkey := neuron.hotkey
  weight := 1
  uid_range := h.uid
  hotkey_text := h.hotkey
  weight_range := ⟨one_pos, le_rfl⟩

/-- The plan that gives all the weight to one neuron. -/
def singlePlan (h : snapshot.Valid lib) (hvalidator : IsText 256 validatorHotkey)
    (hversion : 0 ≤ versionKey ∧ versionKey ≤ maxVersionKey)
    (hexpiry : snapshot.block < conservativeExpiryLimit snapshot.block snapshot.tempo) {neuron : NeuronRecord}
    (hneuron : neuron.Valid) (hne : neuron.hotkey ≠ validatorHotkey) : WeightPlan lib where
  network := snapshot.network
  netuid := snapshot.netuid
  validatorHotkey := validatorHotkey
  snapshot := h.planSnapshot
  weights := [hneuron.entry]
  versionKey := versionKey
  createdBlock := snapshot.block
  expiresAtBlock := conservativeExpiryLimit snapshot.block snapshot.tempo
  network_valid := h.network
  netuid_range := h.netuid
  validator_text := hvalidator
  version_range := hversion
  created_range := h.block
  expires_range := ⟨h.block.1.trans hexpiry.le, min_le_right _ _⟩
  created_eq := rfl
  window := ⟨hexpiry, le_rfl⟩
  weights_ne := List.cons_ne_nil _ _
  ordered := (Sorting.sortOn_eq_self (List.pairwise_singleton _ _)).symm
  uids_nodup := List.nodup_singleton _
  hotkeys_nodup := List.nodup_singleton _
  no_validator := by
    intro entry hentry
    rw [List.mem_singleton.mp hentry]
    exact hne
  normalized := by
    rw [IsCloseToOne, List.map_singleton, List.sum_singleton]
    change |(1 : ℚ) - 1| ≤ _
    norm_num
  renderable := PlanFields.allFinite_unsignedDocument _

/-- **A single row of weight one** is accepted for the active neurons other than the validator. -/
theorem buildWeightPlan_single (h : snapshot.Valid lib)
    (hexpiry : snapshot.block < conservativeExpiryLimit snapshot.block snapshot.tempo)
    (hpermitted : IsPermitted (snapshot.byHotkey validatorHotkey))
    (hversion : 0 ≤ versionKey ∧ versionKey ≤ maxVersionKey) {item : Value} {hotkey : List Char}
    (hitem : readRow item = some ⟨hotkey, 1⟩) :
    (∃ plan, buildWeightPlan lib snapshot validatorHotkey (.list [item]) versionKey = .ok plan) ↔
      ∃ neuron ∈ snapshot.neurons, neuron.hotkey ≠ validatorHotkey ∧ neuron.active = true ∧ neuron.hotkey = hotkey := by
  have hvalidator : IsText 256 validatorHotkey := by
    obtain ⟨validator, hfind, -⟩ := hpermitted
    obtain ⟨hmem, rfl⟩ := mem_of_byHotkey hfind
    exact (h.neurons validator hmem).hotkey
  constructor
  · rintro ⟨plan, hplan⟩
    obtain ⟨-, -, -, items, rows, heq, hrows, -⟩ := buildWeightPlan_eq_ok.mp hplan
    obtain rfl := Value.list.inj heq
    have hreadings := (filterMap_readRow hrows.reads).1
    rw [List.filterMap_cons_some hitem, List.filterMap_nil] at hreadings
    obtain ⟨-, hne, neuron, hneuron, hactive⟩ := hrows.accepted ⟨hotkey, 1⟩ (hreadings ▸ List.mem_singleton_self _)
    obtain ⟨hmem, hkey⟩ := (get_neuronsByHotkey h.hotkeys).mp hneuron
    exact ⟨neuron, hmem, hkey ▸ hne, hactive, hkey⟩
  · rintro ⟨neuron, hmem, hne, hactive, rfl⟩
    have hneuron := h.neurons neuron hmem
    have hget := (get_neuronsByHotkey h.hotkeys).mpr ⟨hmem, rfl⟩
    have htarget : [Row.mk neuron.hotkey 1].filterMap (Row.target (neuronsByHotkey snapshot).get) =
        [(neuron.uid, neuron.hotkey, 1)] := by
      simp [Row.target, hget]
    refine ⟨singlePlan h hvalidator hversion hexpiry hneuron hne, buildWeightPlan_eq_ok.mpr ⟨hvalidator, h, ?_, [item],
      [⟨neuron.hotkey, 1⟩], rfl, ?_, ?_⟩⟩
    · rw [get_neuronsByHotkey_eq h.hotkeys]
      exact hpermitted
    · refine ⟨⟨List.cons_ne_nil _ _, by rw [List.length_singleton, maxWeightPlanNeurons]; omega⟩, .cons (reads_iff.mpr hitem) .nil, ?_, List.nodup_singleton _⟩
      intro row hrow
      rw [List.mem_singleton.mp hrow]
      exact ⟨hneuron.hotkey, hne, neuron, hget, hactive⟩
    · rw [htarget]
      have hsort : ∀ t : ℤ × List Char × ℚ, Sorting.sortOn rowKey [t] = [t] :=
        fun t => Sorting.sortOn_eq_self (List.pairwise_singleton _ _)
      exact {
        ne := List.cons_ne_nil _ _
        uids := List.nodup_singleton _
        total := by simp
        entries := by
          rw [normalizedRows, hsort]
          simp [singlePlan, NeuronRecord.Valid.entry, WeightPlanEntry.row]
        block := rfl, tempo := rfl, epoch := rfl, finalized := rfl, fingerprint := rfl
        expiry := conservativeExpiryBlock_eq_ok.mpr ⟨⟨h.block, h.tempo, hexpiry⟩, rfl⟩
        network := rfl, netuid := rfl, validator := rfl, version := rfl, created := rfl }

/-! ## The three together -/

/-- The plan and its digest, or nothing when the call fails. -/
def planAndDigest (lib : Library) (result : Except PlanError (WeightPlan lib)) : Option (WeightPlan lib × List Char) :=
  result.toOption.map fun plan => (plan, plan.digestSha256 lib)

/-- Two calls that return the same plans have the same result. -/
lemma planAndDigest_congr {x y : Except PlanError (WeightPlan lib)} (h : ∀ plan, x = .ok plan ↔ y = .ok plan) :
    planAndDigest lib x = planAndDigest lib y := by
  have hoption : x.toOption = y.toOption := by
    ext plan
    have hx : ∀ z : Except PlanError (WeightPlan lib), z.toOption = some plan ↔ z = .ok plan := by
      intro z
      cases z with
      | error e => simp [Except.toOption]
      | ok p => simp [Except.toOption]
    rw [hx, hx, h]
  rw [planAndDigest, planAndDigest, hoption]

/-- **Building a plan is order-independent and exact.** Rows and neurons in another order give the same plan with the same
digest, or fail alike; a plan that was built is exact; and in a snapshot that passes its checks, with a permitted active
validator, a single row of weight one is accepted exactly for the hotkeys among the eligible targets. -/
theorem buildWeightPlan_independent_exact (lib : Library) (snapshot : MetagraphSnapshot) (validatorHotkey : List Char)
    (items : List Value) (versionKey : ℤ) :
    (∀ items' neurons, items.Perm items' → snapshot.neurons.Perm neurons →
      planAndDigest lib (buildWeightPlan lib { snapshot with neurons } validatorHotkey (.list items') versionKey) =
        planAndDigest lib (buildWeightPlan lib snapshot validatorHotkey (.list items) versionKey)) ∧
    (∀ plan, buildWeightPlan lib snapshot validatorHotkey (.list items) versionKey = .ok plan →
      IsExact snapshot items plan) ∧
    (∀ fingerprint expiry item hotkey, snapshotIdentityFingerprint lib snapshot = .ok fingerprint →
      conservativeExpiryBlock snapshot = .ok expiry → IsPermitted (snapshot.byHotkey validatorHotkey) →
      0 ≤ versionKey ∧ versionKey ≤ maxVersionKey → readRow item = some ⟨hotkey, 1⟩ →
      ((∃ plan, buildWeightPlan lib snapshot validatorHotkey (.list [item]) versionKey = .ok plan) ↔
        ∃ targets, eligibleWeightTargets lib snapshot validatorHotkey = .ok targets ∧
          ∃ uid, (uid, hotkey) ∈ targets)) := by
  refine ⟨?_, fun plan => buildWeightPlan_isExact, ?_⟩
  · intro items' neurons hitems hneurons
    refine planAndDigest_congr fun plan => ⟨fun h => ?_, buildWeightPlan_perm hitems hneurons⟩
    exact @buildWeightPlan_perm _ { snapshot with neurons } _ _ _ _ _ _ hitems.symm hneurons.symm h
  · intro fingerprint expiry item hotkey hfingerprint hexpiry hpermitted hversion hitem
    obtain ⟨hvalid, -⟩ := snapshotIdentityFingerprint_eq_ok.mp hfingerprint
    obtain ⟨⟨-, -, hlimit⟩, -⟩ := conservativeExpiryBlock_eq_ok.mp hexpiry
    rw [buildWeightPlan_single hvalid hlimit hpermitted hversion hitem]
    have hvalidator : IsText 256 validatorHotkey := by
      obtain ⟨validator, hfind, -⟩ := hpermitted
      obtain ⟨hmem, rfl⟩ := mem_of_byHotkey hfind
      exact (hvalid.neurons validator hmem).hotkey
    obtain ⟨targets, htargets, hmem⟩ := @mem_eligibleWeightTargets lib _ _ hvalidator hvalid.neurons
    constructor
    · rintro ⟨neuron, hneuron, hne, hactive, rfl⟩
      exact ⟨targets, htargets, neuron.uid, (hmem _).mpr ⟨neuron, hneuron, hne, hactive, rfl⟩⟩
    · rintro ⟨targets', htargets', uid, huid⟩
      obtain rfl := Except.ok.inj (htargets.symm.trans htargets')
      obtain ⟨neuron, hneuron, hne, hactive, heq⟩ := (hmem _).mp huid
      exact ⟨neuron, hneuron, hne, hactive, (Prod.mk.inj heq).2.symm⟩

end Exact

/-! ## A sample -/

namespace Sample

/-- A library that knows the floating-point numbers of the sample. -/
def library : Library where
  urlsplit := fun _ => none
  floatRepr := fun q =>
    if q.den = 1 then Json.renderInt q.num ++ ['.', '0']
    else Json.renderInt q.num ++ '.' :: '0' :: 'e' :: '-' :: Nat.toDigits 10 q.den
  floatHex := fun _ => "0x0.0p+0".toList

/-- The validator of the sample. -/
def validatorNeuron : NeuronRecord where
  uid := 0
  hotkey := ['v']
  validatorPermit := true
  taoStake := .finite 0
  axon := none
  active := true

/-- The miner of the sample. -/
def minerNeuron : NeuronRecord where
  uid := 1
  hotkey := ['m']
  validatorPermit := false
  taoStake := .finite 0
  axon := none
  active := true

/-- A finalized snapshot of the two. -/
def snapshot : MetagraphSnapshot where
  network := ['f', 'i', 'n', 'n', 'e', 'y']
  netuid := 7
  block := 1000
  tempo := 360
  neurons := [validatorNeuron, minerNeuron]
  finalized := true

/-- A row that gives the miner all the weight. -/
def item : Value := .dict [("miner_hotkey".toList, .str ['m']), ("weight".toList, .float (.finite 1))]

lemma isNetwork : IsNetwork library snapshot.network := by
  refine ⟨by decide, ?_⟩
  rw [checkNetwork, if_pos (by decide), Except.reject_eq_ok]
  decide

lemma validator_valid : validatorNeuron.Valid :=
  ⟨by decide, by decide, le_refl (0 : ℚ), by simp [validatorNeuron]⟩

lemma miner_valid : minerNeuron.Valid :=
  ⟨by decide, by decide, le_refl (0 : ℚ), by simp [minerNeuron]⟩

lemma snapshot_valid : snapshot.Valid library where
  network := isNetwork
  netuid := by decide
  block := by decide
  tempo := by decide
  finalized := rfl
  size := ⟨List.cons_ne_nil _ _, by decide⟩
  neurons := by
    intro neuron hneuron
    obtain rfl | rfl : neuron = validatorNeuron ∨ neuron = minerNeuron := by simpa [snapshot] using hneuron
    · exact validator_valid
    · exact miner_valid
  uids := by decide
  hotkeys := by decide

lemma expiry : conservativeExpiryBlock snapshot = .ok 1080 :=
  conservativeExpiryBlock_eq_ok.mpr ⟨⟨by decide, by decide, by decide⟩, by decide⟩

lemma permitted : IsPermitted (snapshot.byHotkey ['v']) := ⟨validatorNeuron, rfl, rfl, rfl⟩

/-- The plan that gives the miner all the weight. -/
def plan : WeightPlan library :=
  singlePlan snapshot_valid validator_valid.hotkey (by decide : (0 : ℤ) ≤ 2 ∧ (2 : ℤ) ≤ maxVersionKey) (by decide)
    miner_valid (by decide)

lemma readRow_item : readRow item = some ⟨['m'], 1⟩ := rfl

end Sample

/-- The sample's row is accepted, the plan is exact, and the neurons in the other order give the same plan. -/
theorem buildWeightPlan_independent_exact_sample :
    (∃ fingerprint, snapshotIdentityFingerprint Sample.library Sample.snapshot = .ok fingerprint) ∧
      conservativeExpiryBlock Sample.snapshot = .ok 1080 ∧ IsPermitted (Sample.snapshot.byHotkey ['v']) ∧
      readRow Sample.item = some ⟨['m'], 1⟩ ∧
      (∃ plan, buildWeightPlan Sample.library Sample.snapshot ['v'] (.list [Sample.item]) 2 = .ok plan ∧
        IsExact Sample.snapshot [Sample.item] plan) ∧
      planAndDigest Sample.library (buildWeightPlan Sample.library
          { Sample.snapshot with neurons := [Sample.minerNeuron, Sample.validatorNeuron] } ['v'] (.list [Sample.item]) 2) =
        planAndDigest Sample.library
          (buildWeightPlan Sample.library Sample.snapshot ['v'] (.list [Sample.item]) 2) := by
  have hfingerprint : snapshotIdentityFingerprint Sample.library Sample.snapshot =
      .ok (Sample.snapshot.fingerprint Sample.library) :=
    snapshotIdentityFingerprint_eq_ok.mpr ⟨Sample.snapshot_valid, rfl⟩
  obtain ⟨hperm, hexact, hsingle⟩ :=
    buildWeightPlan_independent_exact Sample.library Sample.snapshot ['v'] [Sample.item] 2
  obtain ⟨targets, htargets, hmem⟩ := @mem_eligibleWeightTargets Sample.library Sample.snapshot ['v']
    Sample.validator_valid.hotkey Sample.snapshot_valid.neurons
  have htarget : ((1 : ℤ), ['m']) ∈ targets :=
    (hmem _).mpr ⟨Sample.minerNeuron, by simp [Sample.snapshot], by decide, rfl, rfl⟩
  obtain ⟨plan, hplan⟩ := (hsingle _ _ _ _ hfingerprint Sample.expiry Sample.permitted (by decide)
    Sample.readRow_item).mpr ⟨targets, htargets, 1, htarget⟩
  exact ⟨⟨_, hfingerprint⟩, Sample.expiry, Sample.permitted, Sample.readRow_item, ⟨plan, hplan, hexact plan hplan⟩,
    hperm _ _ (List.Perm.refl _) (List.Perm.swap _ _ _)⟩

end Weights

end Misscomputer
