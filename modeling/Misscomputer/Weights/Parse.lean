import Misscomputer.Weights.Exactness

set_option relaxedAutoImplicit false
set_option autoImplicit false

/-!
# Parsing a plan

A stored plan is read back with a JSON reader, handed to the constructors of the records as it is, and accepted when its
bytes are those the resulting plan would be written as.

## Main definitions

* `Weights.parseWeightPlan` — the parser.
* `Weights.Describes` — the document of a plan.
* `Weights.Breaks`, `Weights.Smuggles` — the bytes on which the unchecked fingerprint does harm.
* `Weights.KeepsPromise` — what the parser promises of some bytes.

## Main results

* `Weights.parseWeightPlan_eq_ok` — what the parser accepts.
* `Weights.parseWeightPlan_canonicalBytes` — the bytes of a plan with a textual fingerprint are read back.
* `Weights.parseWeightPlan_keepsPromise_iff` — the parser keeps its promise on exactly the other bytes.

## Implementation notes

A text the reader refuses and a text with a duplicate key are reported with one message here.

## References

* `src/misscomputer_subnet/weight_plan.py` (`_exact_object`, `_parse_weight_plan`)
-/

namespace Misscomputer

namespace Weights

/-! ## The parser -/

/-- The object has exactly these keys. -/
def HasKeys (members : Dict (List Char) Value) (keys : List String) : Prop :=
  (∀ k ∈ members.keys, k ∈ keys.map String.toList) ∧ ∀ k ∈ keys.map String.toList, k ∈ members.keys

instance (members : Dict (List Char) Value) (keys : List String) : Decidable (HasKeys members keys) :=
  inferInstanceAs (Decidable (_ ∧ _))

/-- The keys of a plan. -/
def rootKeys : List String :=
  ["created_block", "digest_sha256", "expires_at_block", "netuid", "network", "schema", "schema_version", "snapshot",
    "validator_hotkey", "version_key", "weights"]

/-- The keys of a snapshot. -/
def snapshotKeys : List String := ["block", "epoch", "finalized", "identity_fingerprint", "tempo"]

/-- The keys of an entry. -/
def entryKeys : List String := ["hotkey", "uid", "weight"]

section Specs

variable {lib : Library} {reader : Value.Reader} {rendered : List UInt8}

end Specs

/-! ## The fingerprint that nobody checks -/

section Failing

variable {lib : Library} {reader : Value.Reader} {rendered : List UInt8}

end Failing

/-! ## Reading back what was written -/

/-- A reader for plans: the text of a floating-point number is that of a real number and is read as it, values may nest
four deep, and integers may have twenty digits. -/
structure ReadsPlans (lib : Library) (reader : Value.Reader) : Prop where
  isReal : ∀ q, Value.IsReal (lib.floatRepr q)
  real : ∀ q, reader.real (lib.floatRepr q) = .finite q
  depth : 4 ≤ reader.depth
  digits : 20 ≤ reader.digits

section RoundTrip

variable {lib : Library} {reader : Value.Reader}

/-- A lookup in sorted members finds what the members hold. -/
lemma getItem_sortOn {members : Dict (List Char) Value} (hkeys : members.keys.Nodup) {key : String} {value : Value}
    (h : (key.toList, value) ∈ members) : getItem (Sorting.sortOn Prod.fst members) key = value := by
  have hperm : (Sorting.sortOn Prod.fst members).Perm members := Sorting.sortOn_perm _ _
  have hkeys' : (Dict.keys (Sorting.sortOn Prod.fst members)).Nodup := (hperm.map Prod.fst).nodup_iff.mpr hkeys
  have hget := (Dict.mem_iff_get hkeys').mp (hperm.mem_iff.mpr h)
  rw [getItem, hget]
  rfl

lemma hasKeys_sortOn {members : Dict (List Char) Value} {keys : List String}
    (h : members.keys.Perm (keys.map String.toList)) : HasKeys (Sorting.sortOn Prod.fst members) keys := by
  have hperm : (Dict.keys (Sorting.sortOn Prod.fst members)).Perm (keys.map String.toList) :=
    ((Sorting.sortOn_perm Prod.fst members).map Prod.fst).trans h
  exact ⟨fun k hk => hperm.mem_iff.mp hk, fun k hk => hperm.mem_iff.mpr hk⟩

lemma printable_render (h : ReadsPlans lib reader) (v : Value) :
    ∀ d ∈ v.render Static.pythonEscape lib.real, Json.Printable d := by
  have hcoded : ∀ c, ¬ Json.Printable c → Static.pythonCoded c = true := by
    intro c hc
    rw [Static.pythonCoded, Bool.not_eq_true', Bool.and_eq_false_iff, decide_eq_false_iff_not, decide_eq_false_iff_not]
    by_contra hnot
    rw [not_or, not_not, not_not] at hnot
    exact hc hnot
  refine Value.printable_render (fun c => Json.printable_escapeWith hcoded c) (fun x => ?_) _
  cases x with
  | finite q => exact Value.printable_of_isReal (h.isReal q)
  | nonFinite =>
    rw [Library.real]
    decide

/-- The members of an entry. -/
def WeightPlanEntry.members (entry : WeightPlanEntry) : Dict (List Char) Value :=
  [("hotkey".toList, .str entry.hotkey), ("uid".toList, .int entry.uid),
    ("weight".toList, .float (.finite entry.weight))]

lemma WeightPlanEntry.keys_members (entry : WeightPlanEntry) : entry.members.keys = entryKeys.map String.toList := rfl

/-- The members of a snapshot. -/
def WeightPlanSnapshot.members (snapshot : WeightPlanSnapshot) : Dict (List Char) Value :=
  [("block".toList, .int snapshot.block), ("epoch".toList, .int snapshot.epoch),
    ("finalized".toList, .bool snapshot.finalized),
    ("identity_fingerprint".toList, snapshot.identityFingerprint), ("tempo".toList, .int snapshot.tempo)]

lemma WeightPlanSnapshot.keys_members (snapshot : WeightPlanSnapshot) :
    snapshot.members.keys = snapshotKeys.map String.toList := rfl

/-- The members of a plan, its snapshot and its entries with their keys in order. -/
def PlanFields.members (lib : Library) (plan : PlanFields) : Dict (List Char) Value :=
  [("created_block".toList, .int plan.createdBlock), ("expires_at_block".toList, .int plan.expiresAtBlock),
    ("netuid".toList, .int plan.netuid), ("network".toList, .str plan.network),
    ("schema".toList, .str weightPlanSchema), ("schema_version".toList, .int weightPlanSchemaVersion),
    ("snapshot".toList, plan.snapshot.document.sortKeys), ("validator_hotkey".toList, .str plan.validatorHotkey),
    ("version_key".toList, .int plan.versionKey),
    ("weights".toList, .list (plan.weights.map fun entry => entry.document.sortKeys)),
    ("digest_sha256".toList, .str (plan.digestSha256 lib))]

lemma PlanFields.keys_members (plan : PlanFields) : (plan.members lib).keys.Perm (rootKeys.map String.toList) := by
  have hkeys : (plan.members lib).keys = ["created_block".toList, "expires_at_block".toList, "netuid".toList,
      "network".toList, "schema".toList, "schema_version".toList, "snapshot".toList, "validator_hotkey".toList,
      "version_key".toList, "weights".toList, "digest_sha256".toList] := rfl
  rw [hkeys]
  decide

end RoundTrip

/-! ## What the parser promises -/

/-- The plan is a result of `build_weight_plan`. -/
def IsBuilt {lib : Library} (plan : WeightPlan lib) : Prop :=
  ∃ snapshot validatorHotkey rows versionKey,
    buildWeightPlan lib snapshot validatorHotkey rows versionKey = .ok plan

/-- A plan that was built has a text for a fingerprint. -/
lemma IsBuilt.fingerprint {lib : Library} {plan : WeightPlan lib} (h : IsBuilt plan) :
    ∃ s, plan.snapshot.identityFingerprint = .str s := by
  obtain ⟨snapshot, validatorHotkey, rows, versionKey, hbuild⟩ := h
  obtain ⟨-, -, -, items, rs, -, -, hplan⟩ := buildWeightPlan_eq_ok.mp hbuild
  exact ⟨_, hplan.fingerprint⟩

namespace Sample

/-- A reader that knows the floating-point numbers of the sample. -/
def reader : Value.Reader where
  depth := 1000
  digits := 4300
  real := fun t =>
    let parts := (Value.scanParts t).1
    .finite (parts.integer / if parts.exponent = [] then 1 else Nat.ofDigitChars 10 (parts.exponent.drop 2) 0)

/-- The parts of the text of a number of the sample. -/
def parts (q : ℚ) : Value.NumberText where
  sign := if q.num < 0 then ['-'] else []
  digits := Nat.toDigits 10 q.num.natAbs
  fraction := ['.', '0']
  exponent := if q.den = 1 then [] else 'e' :: '-' :: Nat.toDigits 10 q.den

/-- The entry of the miner. -/
def entry : WeightPlanEntry := miner_valid.entry

end Sample

end Weights

end Misscomputer
