import Misscomputer.Contract.Parsing
import Misscomputer.Lib.Dict
import Misscomputer.Lib.Except
import Misscomputer.Lib.Value
import Mathlib.Data.Fintype.Basic
import Mathlib.Data.List.Infix
import Mathlib.Data.Prod.Lex

set_option relaxedAutoImplicit false
set_option autoImplicit false

/-!
# Weight plans

The immutable record of what a validator is going to submit: a finalized view of the chain, a normalized positive weight
for every target, and the blocks between which the plan may be executed. A record is built through its checks only, so it
carries what they have found; the checks take values of any type, since a parsed document is handed to them as it is.

## Main definitions

* `Weights.Library` — what the records use of the standard library.
* `Weights.validateText`, `validateInteger`, `validateNetworkIdentity` — the checks of single fields.
* `Weights.WeightPlanEntry`, `WeightPlanSnapshot`, `WeightPlan` — the records, each with its constructor `make`.
* `Weights.checkFingerprint` — the check of an identity fingerprint, which takes any value that has a length.
* `Weights.WeightPlan.digestSha256`, `WeightPlan.canonicalBytes` — the digest and the bytes of a plan.

## Main results

* `Weights.WeightPlanEntry.make_eq_ok`, `WeightPlanSnapshot.make_eq_ok`, `WeightPlan.make_eq_ok` — a constructor returns
  the record whose fields it was given.
* `Weights.checkFingerprint_eq_ok`, `checkFingerprint_eq_typeError` — which fingerprints pass, and on which the check
  itself breaks down.

## Implementation notes

Weights are the exact rational values of the floating-point numbers, and arithmetic on them is exact. A text of the
characters from `!` to `~` is ASCII and has no white space to strip, so the check of a text is that of its characters.

## References

* `src/misscomputer_subnet/weight_plan.py` (`_canonical_json`, `_validate_text`, `_validate_network_identity`,
  `_validate_integer`, `WeightPlanEntry`, `WeightPlanSnapshot`, `WeightPlan`, `_conservative_expiry_limit`)
-/

namespace Misscomputer

namespace Weights

open Except (reject)

/-! ## The standard library -/

/-- What `urlsplit` returns. The port is read later, and reading it may fail. -/
structure SplitResult where
  scheme : List Char
  netloc : List Char
  hostname : Option (List Char)
  username : Option (List Char)
  password : Option (List Char)
  path : List Char
  query : List Char
  fragment : List Char
  port : Option (Option ℤ)

/-- The standard library, as far as it is used: the parts of a URL, the shortest decimal text of a floating-point number,
and its hexadecimal text. -/
structure Library where
  urlsplit : List Char → Option SplitResult
  floatRepr : ℚ → List Char
  floatHex : ℚ → List Char

/-- How a call fails: with an error of the module, or with one of the interpreter's own. -/
inductive PlanError
  | weightPlan (message : String)
  | typeError
  | overflow
  deriving DecidableEq

/-- A check that returns what it has found. -/
def require (p : Prop) [Decidable p] (message : String) : Except PlanError (PLift p) :=
  if h : p then .ok ⟨h⟩ else .error (.weightPlan message)

lemma require_eq_ok {p : Prop} [Decidable p] {message : String} {h : PLift p} : require p message = .ok h ↔ p := by
  constructor
  · exact fun _ => h.down
  · intro hp
    exact dif_pos hp

/-! ## Failing by an error of the module -/

/-- The computation fails by `WeightPlanError` or not at all. -/
def Rejecting {α : Type} (x : Except PlanError α) : Prop := ∀ e, x = .error e → ∃ message, e = .weightPlan message

section Rejecting

variable {α β : Type}

lemma Rejecting.bind {x : Except PlanError α} {f : α → Except PlanError β} (hx : Rejecting x)
    (hf : ∀ a, x = .ok a → Rejecting (f a)) : Rejecting (x >>= f) := by
  intro e he
  cases hcase : x with
  | error e' =>
    rw [hcase] at he
    obtain rfl : e' = e := Except.error.inj he
    exact hx e' hcase
  | ok a =>
    rw [hcase] at he
    exact hf a hcase e he

end Rejecting

/-! ## Limits -/

/-- `MAX_WEIGHT_PLAN_NEURONS`. -/
def maxWeightPlanNeurons : ℕ := 65536

/-- `MAX_BLOCK`. -/
def maxBlock : ℤ := 2 ^ 63 - 1

/-- `MAX_VERSION_KEY`. -/
def maxVersionKey : ℤ := 2 ^ 64 - 1

/-- `WEIGHT_PLAN_SCHEMA`. -/
def weightPlanSchema : List Char := "miss.computer/misscomputer-subnet/weight-plan".toList

/-- `WEIGHT_PLAN_SCHEMA_VERSION`. -/
def weightPlanSchemaVersion : ℤ := 1

/-! ## Canonical JSON -/

/-- `json.dumps(x)` of a floating-point number. -/
def Library.real (lib : Library) : Double → List Char
  | .finite q => lib.floatRepr q
  | .nonFinite => "NaN".toList

/-- The text of a value with sorted keys and without spaces. -/
def Library.dumps (lib : Library) (v : Value) : List Char := v.sortKeys.render Static.pythonEscape lib.real

/-- `_canonical_json`: numbers that are not finite have no text. -/
def canonicalJson (lib : Library) (v : Value) : Except PlanError (List UInt8) :=
  if v.allFinite then .ok (Text.bytes (lib.dumps v)) else .error (.weightPlan "weight plan is not canonical JSON")

/-- The hexadecimal SHA-256 of some bytes. -/
def hexdigest (b : List UInt8) : List Char := (Contract.sha256Hex b).toList

/-! ## Fields -/

/-- A non-empty text of visible ASCII characters. -/
def IsText (maximum : ℕ) (s : List Char) : Prop := s ≠ [] ∧ s.length ≤ maximum ∧ ∀ c ∈ s, '!' ≤ c ∧ c ≤ '~'

instance (maximum : ℕ) (s : List Char) : Decidable (IsText maximum s) := inferInstanceAs (Decidable (_ ∧ _ ∧ _))

/-- `_validate_text`. -/
def validateText (fieldName : String) (maximum : ℕ) : Value → Except PlanError {s : List Char // IsText maximum s}
  | .str s => if h : IsText maximum s then .ok ⟨s, h⟩ else .error (.weightPlan (fieldName ++ " is invalid"))
  | _ => .error (.weightPlan (fieldName ++ " is invalid"))

/-- `_validate_integer`. -/
def validateInteger (fieldName : String) (minimum maximum : ℤ) :
    Value → Except PlanError {n : ℤ // minimum ≤ n ∧ n ≤ maximum}
  | .int n =>
    if h : minimum ≤ n ∧ n ≤ maximum then .ok ⟨n, h⟩ else .error (.weightPlan (fieldName ++ " is out of range"))
  | _ => .error (.weightPlan (fieldName ++ " is out of range"))

/-- A public alias. -/
def IsAlias (network : List Char) : Prop := network.length ≤ 64 ∧ ∀ c ∈ network, c.isAlphanum ∨ c = '-' ∨ c = '_'

instance (network : List Char) : Decidable (IsAlias network) := inferInstanceAs (Decidable (_ ∧ _))

/-- A websocket endpoint with the port `port`, without credentials, path, query or fragment. -/
def IsEndpoint (endpoint : SplitResult) (port : Option ℤ) : Prop :=
  (endpoint.scheme = "ws".toList ∨ endpoint.scheme = "wss".toList) ∧ endpoint.netloc ≠ [] ∧
    endpoint.hostname.isSome ∧ endpoint.username = none ∧ endpoint.password = none ∧ endpoint.path = [] ∧
    endpoint.query = [] ∧ endpoint.fragment = [] ∧ ¬ [':'] <:+ endpoint.netloc ∧
    ∀ p ∈ port, 1 ≤ p ∧ p ≤ 65535

instance (endpoint : SplitResult) (port : Option ℤ) : Decidable (IsEndpoint endpoint port) := by
  unfold IsEndpoint
  infer_instance

/-- The checks of `_validate_network_identity` on a text. -/
def checkNetwork (lib : Library) (fieldName : String) (network : List Char) : Except PlanError Unit :=
  let message := fieldName ++ " must be a public alias or credential-free websocket endpoint"
  if ¬ "://".toList <:+: network then reject (¬ IsAlias network) (.weightPlan message)
  else
    match (lib.urlsplit network).bind fun endpoint => endpoint.port.map fun port => (endpoint, port) with
    | none => .error (.weightPlan (fieldName ++ " is invalid"))
    | some (endpoint, port) => reject (¬ IsEndpoint endpoint port) (.weightPlan message)

/-- The network identities that pass. The name of the field does not matter. -/
def IsNetwork (lib : Library) (network : List Char) : Prop :=
  IsText 256 network ∧ checkNetwork lib "network" network = .ok ()

/-- Whether a network passes does not depend on the name of the field. -/
lemma checkNetwork_eq_ok {lib : Library} {fieldName : String} {network : List Char} {u : Unit} :
    checkNetwork lib fieldName network = .ok u ↔ checkNetwork lib "network" network = .ok () := by
  unfold checkNetwork
  split
  · simp only [Except.reject_eq_ok]
  · split
    · simp
    · simp only [Except.reject_eq_ok]

/-- `_validate_network_identity`. -/
def validateNetworkIdentity (lib : Library) (fieldName : String) (value : Value) :
    Except PlanError {network : List Char // IsNetwork lib network} := do
  let network ← validateText fieldName 256 value
  match h : checkNetwork lib fieldName network.1 with
  | .ok _ => .ok ⟨network.1, network.2, checkNetwork_eq_ok.mp h⟩
  | .error e => .error e

section Fields

variable {lib : Library} {fieldName : String} {value : Value}

@[simp] lemma validateText_eq_ok {maximum : ℕ} {s : {s : List Char // IsText maximum s}} :
    validateText fieldName maximum value = .ok s ↔ value = .str s.1 := by
  obtain ⟨s, hs⟩ := s
  constructor
  · intro h
    unfold validateText at h
    split at h
    · split at h
      · injection h with h
        injection h with h
        rw [h]
      · cases h
    · cases h
  · rintro rfl
    exact dif_pos hs

@[simp] lemma validateInteger_eq_ok {minimum maximum : ℤ} {n : {n : ℤ // minimum ≤ n ∧ n ≤ maximum}} :
    validateInteger fieldName minimum maximum value = .ok n ↔ value = .int n.1 := by
  obtain ⟨n, hn⟩ := n
  constructor
  · intro h
    unfold validateInteger at h
    split at h
    · split at h
      · injection h with h
        injection h with h
        rw [h]
      · cases h
    · cases h
  · rintro rfl
    exact dif_pos hn

@[simp] lemma validateNetworkIdentity_eq_ok {network : {network : List Char // IsNetwork lib network}} :
    validateNetworkIdentity lib fieldName value = .ok network ↔ value = .str network.1 := by
  obtain ⟨network, hnetwork⟩ := network
  simp only [validateNetworkIdentity, Except.bind_eq_ok, validateText_eq_ok]
  constructor
  · rintro ⟨s, rfl, h⟩
    split at h
    · injection h with h
      injection h with h
      rw [h]
    · cases h
  · rintro rfl
    refine ⟨⟨network, hnetwork.1⟩, rfl, ?_⟩
    have hcheck : checkNetwork lib fieldName network = .ok () := checkNetwork_eq_ok.mpr hnetwork.2
    split
    · rfl
    · rename_i e herror
      rw [hcheck] at herror
      cases herror

end Fields

/-! ## Entries -/

/-- The integers from here on are too large for a floating-point number. -/
def floatLimit : ℕ := 2 ^ 1024 - 2 ^ 970

/-- `float(x)` of a number. -/
def toFloat : Value → Except PlanError Double
  | .int n => if floatLimit ≤ n.natAbs then .error .overflow else .ok (.finite n)
  | .float x => .ok x
  | _ => .error .typeError

/-- The check of a normalized weight. Whatever `float` raises is renamed. -/
def validateWeight (value : Value) : Except PlanError {q : ℚ // 0 < q ∧ q ≤ 1} :=
  match toFloat value with
  | .ok (.finite q) =>
    if h : 0 < q ∧ q ≤ 1 then .ok ⟨q, h⟩ else .error (.weightPlan "normalized weight is out of range")
  | _ => .error (.weightPlan "normalized weight is out of range")

@[simp] lemma validateWeight_eq_ok {value : Value} {q : {q : ℚ // 0 < q ∧ q ≤ 1}} :
    validateWeight value = .ok q ↔ toFloat value = .ok (.finite q.1) := by
  obtain ⟨q, hq⟩ := q
  constructor
  · intro h
    unfold validateWeight at h
    split at h
    · split at h
      · injection h with h
        injection h with h
        subst h
        assumption
      · cases h
    · cases h
  · intro h
    rw [validateWeight, h]
    exact dif_pos hq

/-- One exact metagraph identity and its normalized positive weight. -/
@[ext] structure WeightPlanEntry where
  uid : ℤ
  hotkey : List Char
  weight : ℚ
  uid_range : 0 ≤ uid ∧ uid ≤ 65535
  hotkey_text : IsText 256 hotkey
  weight_range : 0 < weight ∧ weight ≤ 1
  deriving DecidableEq

namespace WeightPlanEntry

/-- `WeightPlanEntry(uid=..., hotkey=..., weight=...)`. -/
def make (uid hotkey weight : Value) : Except PlanError WeightPlanEntry := do
  let uid ← validateInteger "weight UID" 0 65535 uid
  let hotkey ← validateText "weight hotkey" 256 hotkey
  let weight ← validateWeight weight
  return ⟨uid.1, hotkey.1, weight.1, uid.2, hotkey.2, weight.2⟩

/-- `WeightPlanEntry.document`. -/
def document (entry : WeightPlanEntry) : Value :=
  .dict [("hotkey".toList, .str entry.hotkey), ("uid".toList, .int entry.uid),
    ("weight".toList, .float (.finite entry.weight))]

/-- The place of an entry in a plan: `(entry.uid, entry.hotkey)`. -/
def key (entry : WeightPlanEntry) : ℤ ×ₗ List Char := toLex (entry.uid, entry.hotkey)

variable {uid hotkey weight : Value} {entry : WeightPlanEntry}

/-- The constructor returns the entry with the fields it was given. -/
lemma make_eq_ok : make uid hotkey weight = .ok entry ↔
    uid = .int entry.uid ∧ hotkey = .str entry.hotkey ∧ toFloat weight = .ok (.finite entry.weight) := by
  simp only [make, Except.bind_eq_ok, validateInteger_eq_ok, validateText_eq_ok, validateWeight_eq_ok]
  constructor
  · rintro ⟨u, hu, h, hh, w, hw, heq⟩
    obtain rfl := Except.ok.inj heq
    exact ⟨hu, hh, hw⟩
  · rintro ⟨hu, hh, hw⟩
    exact ⟨⟨_, entry.uid_range⟩, hu, ⟨_, entry.hotkey_text⟩, hh, ⟨_, entry.weight_range⟩, hw, rfl⟩

end WeightPlanEntry

/-! ## Snapshots -/

/-- `len(x)`. Only texts, lists and objects have one. -/
def pyLength : Value → Option ℕ
  | .str s => some s.length
  | .list items => some items.length
  | .dict members => some members.length
  | _ => none

/-- What a loop over the value runs through: characters, items or keys. -/
def pyItems : Value → List Value
  | .str s => s.map fun c => .str [c]
  | .list items => items
  | .dict members => members.map fun m => .str m.1
  | _ => []

/-- `0123456789abcdef`. -/
def hexDigits : List Char := "0123456789abcdef".toList

/-- `character in "0123456789abcdef"`, which is a test for a substring, and undefined unless the value is a text. -/
def inHexDigits : Value → Option Bool
  | .str s => some (decide (s <:+: hexDigits))
  | _ => none

/-- The loop over the characters of a fingerprint. -/
def checkCharacters : List Value → Except PlanError Unit
  | [] => .ok ()
  | character :: characters =>
    match inHexDigits character with
    | none => .error .typeError
    | some false => .error (.weightPlan "snapshot identity fingerprint is invalid")
    | some true => checkCharacters characters

/-- The check of an identity fingerprint. It takes for granted that the value has a length and consists of texts. -/
def checkFingerprint (value : Value) : Except PlanError Unit :=
  match pyLength value with
  | none => .error .typeError
  | some n =>
    if n ≠ 64 then .error (.weightPlan "snapshot identity fingerprint is invalid")
    else checkCharacters (pyItems value)

/-- A piece of the sixteen digits, as the check of a fingerprint takes it. -/
def IsPiece (value : Value) : Prop := ∃ s, value = .str s ∧ s <:+: hexDigits

/-- The values that pass for a fingerprint. -/
def IsFingerprint (value : Value) : Prop := pyLength value = some 64 ∧ ∀ item ∈ pyItems value, IsPiece item

lemma inHexDigits_eq_some_true {value : Value} : inHexDigits value = some true ↔ IsPiece value := by
  cases value with
  | str s => simp [inHexDigits, IsPiece]
  | _ => simp [inHexDigits, IsPiece]

lemma inHexDigits_eq_none {value : Value} : inHexDigits value = none ↔ ∀ s, value ≠ .str s := by
  cases value with
  | str s => simp [inHexDigits]
  | _ => simp [inHexDigits]

/-- **The loop over the characters** returns when every item is a piece of the digits, and breaks down at a first item
that is no text. -/
lemma checkCharacters_spec (items : List Value) :
    (checkCharacters items = .ok () ↔ ∀ item ∈ items, IsPiece item) ∧
    (checkCharacters items = .error .typeError ↔
      ∃ before item after, items = before ++ item :: after ∧ (∀ v ∈ before, IsPiece v) ∧ ∀ s, item ≠ .str s) ∧
    ∀ e, checkCharacters items = .error e → e = .typeError ∨ ∃ message, e = .weightPlan message := by
  induction items with
  | nil => simp [checkCharacters]
  | cons v items ih =>
    obtain ⟨ihok, ihtype, iherror⟩ := ih
    rw [checkCharacters]
    rcases h : inHexDigits v with _ | _ | _
    · have htext := inHexDigits_eq_none.mp h
      refine ⟨?_, ?_, fun e he => .inl (Except.error.inj he).symm⟩
      · simp only [reduceCtorEq, false_iff]
        intro hall
        obtain ⟨s, rfl, -⟩ := hall v List.mem_cons_self
        exact htext s rfl
      · simp only [true_iff]
        exact ⟨[], v, items, rfl, by simp, htext⟩
    · have hpiece : ¬ IsPiece v := by
        rw [← inHexDigits_eq_some_true, h]
        simp
      have hstr : ∃ s, v = .str s := by
        by_contra hne
        rw [inHexDigits_eq_none.mpr (by simpa using hne)] at h
        cases h
      refine ⟨?_, ?_, fun e he => .inr ⟨_, (Except.error.inj he).symm⟩⟩
      · simp only [reduceCtorEq, false_iff]
        exact fun hall => hpiece (hall v List.mem_cons_self)
      · simp only [Except.error.injEq, reduceCtorEq, false_iff]
        rintro ⟨before, item, after, heq, hbefore, hitem⟩
        obtain ⟨s, rfl⟩ := hstr
        cases before with
        | nil => exact hitem s (List.cons.inj heq).1.symm
        | cons b before => exact hpiece ((List.cons.inj heq).1 ▸ hbefore b List.mem_cons_self)
    · have hpiece := inHexDigits_eq_some_true.mp h
      refine ⟨?_, ?_, iherror⟩
      · simp only [ihok, List.forall_mem_cons, hpiece, true_and]
      · simp only [ihtype]
        constructor
        · rintro ⟨before, item, after, rfl, hbefore, hitem⟩
          exact ⟨v :: before, item, after, rfl, List.forall_mem_cons.mpr ⟨hpiece, hbefore⟩, hitem⟩
        · rintro ⟨before, item, after, heq, hbefore, hitem⟩
          cases before with
          | nil =>
            obtain ⟨s, rfl, -⟩ := hpiece
            exact absurd (List.cons.inj heq).1.symm (hitem s)
          | cons b before =>
            exact ⟨before, item, after, (List.cons.inj heq).2, (List.forall_mem_cons.mp hbefore).2, hitem⟩

/-- **The fingerprints that pass** are texts, lists and objects of sixty-four pieces of the digits. -/
theorem checkFingerprint_eq_ok {value : Value} {u : Unit} : checkFingerprint value = .ok u ↔ IsFingerprint value := by
  rw [checkFingerprint, IsFingerprint]
  cases hlength : pyLength value with
  | none => simp
  | some n =>
    by_cases hn : n = 64
    · subst hn
      simp [(checkCharacters_spec _).1]
    · simp [hn]

/-- A text is a fingerprint when it consists of sixty-four of the digits. -/
lemma isFingerprint_str {s : List Char} : IsFingerprint (.str s) ↔ s.length = 64 ∧ ∀ c ∈ s, c ∈ hexDigits := by
  have hitems : (∀ item ∈ pyItems (.str s), IsPiece item) ↔ ∀ c ∈ s, c ∈ hexDigits := by
    simp only [pyItems, List.forall_mem_map]
    refine forall₂_congr fun c _ => ?_
    constructor
    · rintro ⟨t, ht, hpiece⟩
      rw [← Value.str.inj ht] at hpiece
      exact (List.singleton_infix_iff c hexDigits).mp hpiece
    · intro hc
      exact ⟨[c], rfl, (List.singleton_infix_iff c hexDigits).mpr hc⟩
  rw [IsFingerprint, hitems, pyLength, Option.some.injEq]

/-- A hexadecimal digest is a fingerprint. -/
lemma isFingerprint_hexdigest (b : List UInt8) : IsFingerprint (.str (hexdigest b)) := by
  have hhex : Contract.hex64 (Contract.sha256Hex b) = true := Contract.hex64_sha256Hex b
  rw [Contract.hex64, Protocol.lowercaseHex, Bool.and_eq_true, beq_iff_eq, List.all_eq_true] at hhex
  refine isFingerprint_str.mpr ⟨hhex.1, fun c hc => ?_⟩
  have hdigit := hhex.2 c hc
  have hascii := Text.forall_ascii (P := fun c => Protocol.hexDigit c = true → c ∈ hexDigits) (by decide) c (by
    simp only [Protocol.hexDigit, Bool.or_eq_true, Bool.and_eq_true, decide_eq_true_eq] at hdigit
    omega)
  exact hascii hdigit

/-- The exact finalized metagraph view that authorizes a plan. -/
structure WeightPlanSnapshot where
  block : ℤ
  tempo : ℤ
  epoch : ℤ
  finalized : Bool
  identityFingerprint : Value
  block_range : 0 ≤ block ∧ block ≤ maxBlock
  tempo_range : 1 ≤ tempo ∧ tempo ≤ maxBlock
  epoch_range : 0 ≤ epoch ∧ epoch ≤ maxBlock
  epoch_eq : epoch = block / tempo
  finalized_eq : finalized = true
  fingerprint : IsFingerprint identityFingerprint

namespace WeightPlanSnapshot

/-- `finalized is True`. -/
def IsTrue (value : Value) : Prop := value = .bool true

instance (value : Value) : Decidable (IsTrue value) :=
  match value with
  | .bool true => isTrue rfl
  | .bool false => isFalse (by simp [IsTrue])
  | .null => isFalse (by simp [IsTrue])
  | .int _ => isFalse (by simp [IsTrue])
  | .float _ => isFalse (by simp [IsTrue])
  | .str _ => isFalse (by simp [IsTrue])
  | .list _ => isFalse (by simp [IsTrue])
  | .dict _ => isFalse (by simp [IsTrue])

/-- The check of a fingerprint, which returns what it has found. -/
def requireFingerprint (value : Value) : Except PlanError (PLift (IsFingerprint value)) :=
  match h : checkFingerprint value with
  | .ok _ => .ok ⟨checkFingerprint_eq_ok.mp h⟩
  | .error e => .error e

lemma requireFingerprint_eq_ok {value : Value} {h : PLift (IsFingerprint value)} :
    requireFingerprint value = .ok h ↔ IsFingerprint value := by
  constructor
  · exact fun _ => h.down
  · intro hvalue
    have hcheck := checkFingerprint_eq_ok (u := ()).mpr hvalue
    unfold requireFingerprint
    split
    · rfl
    · rename_i e herror
      rw [hcheck] at herror
      cases herror

/-- `WeightPlanSnapshot(...)`. -/
def make (block tempo epoch finalized identityFingerprint : Value) : Except PlanError WeightPlanSnapshot := do
  let block ← validateInteger "snapshot block" 0 maxBlock block
  let tempo ← validateInteger "snapshot tempo" 1 maxBlock tempo
  let epoch ← validateInteger "snapshot epoch" 0 maxBlock epoch
  let hepoch ← require (epoch.1 = block.1 / tempo.1) "snapshot epoch does not match block and tempo"
  let _ ← require (IsTrue finalized) "weight plans require a finalized metagraph snapshot"
  let hfingerprint ← requireFingerprint identityFingerprint
  return ⟨block.1, tempo.1, epoch.1, true, identityFingerprint, block.2, tempo.2, epoch.2, hepoch.down, rfl,
    hfingerprint.down⟩

/-- `WeightPlanSnapshot.document`. -/
def document (snapshot : WeightPlanSnapshot) : Value :=
  .dict [("block".toList, .int snapshot.block), ("epoch".toList, .int snapshot.epoch),
    ("finalized".toList, .bool snapshot.finalized),
    ("identity_fingerprint".toList, snapshot.identityFingerprint), ("tempo".toList, .int snapshot.tempo)]

variable {block tempo epoch finalized fingerprint : Value} {snapshot : WeightPlanSnapshot}

/-- The constructor returns the snapshot with the fields it was given. -/
lemma make_eq_ok : make block tempo epoch finalized fingerprint = .ok snapshot ↔
    block = .int snapshot.block ∧ tempo = .int snapshot.tempo ∧ epoch = .int snapshot.epoch ∧
      finalized = .bool snapshot.finalized ∧ fingerprint = snapshot.identityFingerprint := by
  simp only [make, Except.bind_eq_ok, validateInteger_eq_ok, require_eq_ok, requireFingerprint_eq_ok]
  constructor
  · rintro ⟨b, hb, t, ht, e, he, hepoch, -, htrue, hfinal, hf, -, heq⟩
    obtain rfl := Except.ok.inj heq
    exact ⟨hb, ht, he, hfinal, rfl⟩
  · rintro ⟨rfl, rfl, rfl, rfl, rfl⟩
    have hfinal : IsTrue (.bool snapshot.finalized) := by rw [snapshot.finalized_eq, IsTrue]
    refine ⟨⟨_, snapshot.block_range⟩, rfl, ⟨_, snapshot.tempo_range⟩, rfl, ⟨_, snapshot.epoch_range⟩, rfl,
      ⟨snapshot.epoch_eq⟩, snapshot.epoch_eq, ⟨hfinal⟩, hfinal, ⟨snapshot.fingerprint⟩, snapshot.fingerprint, ?_⟩
    obtain ⟨b, t, e, f, p, hb, ht, he, heq, hf, hp⟩ := snapshot
    subst hf
    rfl

end WeightPlanSnapshot

/-! ## Plans -/

/-- `_conservative_expiry_limit`. -/
def conservativeExpiryLimit (block tempo : ℤ) : ℤ :=
  let epoch := block / tempo
  let nextEpochBlock := (epoch + 1) * tempo
  let quarterTempoWindow := max 1 (tempo / 4)
  min (min (block + quarterTempoWindow) nextEpochBlock) maxBlock

/-- The fields of a plan, before its checks. -/
structure PlanFields where
  network : List Char
  netuid : ℤ
  validatorHotkey : List Char
  snapshot : WeightPlanSnapshot
  weights : List WeightPlanEntry
  versionKey : ℤ
  createdBlock : ℤ
  expiresAtBlock : ℤ

namespace PlanFields

/-- `WeightPlan._unsigned_document`. -/
def unsignedDocument (plan : PlanFields) : List (List Char × Value) :=
  [("created_block".toList, .int plan.createdBlock), ("expires_at_block".toList, .int plan.expiresAtBlock),
    ("netuid".toList, .int plan.netuid), ("network".toList, .str plan.network),
    ("schema".toList, .str weightPlanSchema), ("schema_version".toList, .int weightPlanSchemaVersion),
    ("snapshot".toList, plan.snapshot.document), ("validator_hotkey".toList, .str plan.validatorHotkey),
    ("version_key".toList, .int plan.versionKey),
    ("weights".toList, .list (plan.weights.map WeightPlanEntry.document))]

/-- `WeightPlan.digest_sha256`. -/
def digestSha256 (lib : Library) (plan : PlanFields) : List Char :=
  hexdigest (Text.bytes (lib.dumps (.dict plan.unsignedDocument)))

/-- `WeightPlan.document`. -/
def document (lib : Library) (plan : PlanFields) : Value :=
  .dict (plan.unsignedDocument ++ [("digest_sha256".toList, .str (plan.digestSha256 lib))])

/-- `WeightPlan.canonical_bytes`. -/
def canonicalBytes (lib : Library) (plan : PlanFields) : List UInt8 :=
  Text.bytes (lib.dumps (plan.document lib) ++ ['\n'])

/-- A plan has a text when its fingerprint has one. -/
lemma allFinite_unsignedDocument (plan : PlanFields) :
    (Value.dict plan.unsignedDocument).allFinite = plan.snapshot.identityFingerprint.allFinite := by
  have hweights : Value.allFiniteItems (plan.weights.map WeightPlanEntry.document) = true := by
    rw [Value.allFiniteItems_iff]
    intro v hv
    obtain ⟨entry, -, rfl⟩ := List.mem_map.mp hv
    rfl
  simp only [unsignedDocument, WeightPlanSnapshot.document, Value.allFinite, Value.allFiniteMembers, hweights,
    Bool.true_and, Bool.and_true]

end PlanFields

/-- `math.isclose(total, 1.0, rel_tol=0.0, abs_tol=1e-15)`. -/
def IsCloseToOne (total : ℚ) : Prop := |total - 1| ≤ 1 / 10 ^ 15

instance (total : ℚ) : Decidable (IsCloseToOne total) := inferInstanceAs (Decidable (_ ≤ _))

/-- Immutable canonical input for a separate, one-shot executor. -/
structure WeightPlan (lib : Library) extends PlanFields where
  network_valid : IsNetwork lib network
  netuid_range : 0 ≤ netuid ∧ netuid ≤ 65535
  validator_text : IsText 256 validatorHotkey
  version_range : 0 ≤ versionKey ∧ versionKey ≤ maxVersionKey
  created_range : 0 ≤ createdBlock ∧ createdBlock ≤ maxBlock
  expires_range : 0 ≤ expiresAtBlock ∧ expiresAtBlock ≤ maxBlock
  created_eq : createdBlock = snapshot.block
  window : createdBlock < expiresAtBlock ∧ expiresAtBlock ≤ conservativeExpiryLimit snapshot.block snapshot.tempo
  weights_ne : weights ≠ []
  ordered : weights = Sorting.sortOn WeightPlanEntry.key weights
  uids_nodup : (weights.map WeightPlanEntry.uid).Nodup
  hotkeys_nodup : (weights.map WeightPlanEntry.hotkey).Nodup
  no_validator : ∀ entry ∈ weights, entry.hotkey ≠ validatorHotkey
  normalized : IsCloseToOne (weights.map WeightPlanEntry.weight).sum
  renderable : (Value.dict toPlanFields.unsignedDocument).allFinite = true

namespace WeightPlan

variable {lib : Library}

/-- `WeightPlan(...)`. -/
def make (lib : Library) (network netuid validatorHotkey : Value) (snapshot : WeightPlanSnapshot)
    (weights : List WeightPlanEntry) (versionKey createdBlock expiresAtBlock : Value) :
    Except PlanError (WeightPlan lib) := do
  let network ← validateNetworkIdentity lib "network" network
  let netuid ← validateInteger "netuid" 0 65535 netuid
  let validatorHotkey ← validateText "validator hotkey" 256 validatorHotkey
  let versionKey ← validateInteger "version key" 0 maxVersionKey versionKey
  let createdBlock ← validateInteger "created block" 0 maxBlock createdBlock
  let expiresAtBlock ← validateInteger "expiry block" 0 maxBlock expiresAtBlock
  let hcreated ← require (createdBlock.1 = snapshot.block) "created block must equal the finalized snapshot block"
  let hwindow ← require (createdBlock.1 < expiresAtBlock.1 ∧
      expiresAtBlock.1 ≤ conservativeExpiryLimit snapshot.block snapshot.tempo)
    "expiry block exceeds the conservative snapshot window"
  let hne ← require (weights ≠ []) "weight plan must contain at least one positive entry"
  let hordered ← require (weights = Sorting.sortOn WeightPlanEntry.key weights)
    "weight plan entries are not canonically ordered"
  let huids ← require (weights.map WeightPlanEntry.uid).Nodup "weight plan contains duplicate UIDs"
  let hhotkeys ← require (weights.map WeightPlanEntry.hotkey).Nodup "weight plan contains duplicate hotkeys"
  let hvalidator ← require (∀ entry ∈ weights, entry.hotkey ≠ validatorHotkey.1)
    "weight plan cannot assign weight to its validator"
  let hsum ← require (IsCloseToOne (weights.map WeightPlanEntry.weight).sum)
    "weight plan entries are not normalized"
  let plan : PlanFields := ⟨network.1, netuid.1, validatorHotkey.1, snapshot, weights, versionKey.1, createdBlock.1,
    expiresAtBlock.1⟩
  let hfinite ← require ((Value.dict plan.unsignedDocument).allFinite = true) "weight plan is not canonical JSON"
  return ⟨plan, network.2, netuid.2, validatorHotkey.2, versionKey.2, createdBlock.2, expiresAtBlock.2, hcreated.down,
    hwindow.down, hne.down, hordered.down, huids.down, hhotkeys.down, hvalidator.down, hsum.down, hfinite.down⟩

/-- A plan is its fields. -/
lemma ext_fields {p q : WeightPlan lib} (h : p.toPlanFields = q.toPlanFields) : p = q := by
  cases p
  cases q
  cases h
  rfl

variable {network netuid validatorHotkey versionKey createdBlock expiresAtBlock : Value} {snapshot : WeightPlanSnapshot}
  {weights : List WeightPlanEntry} {plan : WeightPlan lib}

/-- **The constructor** returns the plan with the fields it was given. -/
theorem make_eq_ok :
    make lib network netuid validatorHotkey snapshot weights versionKey createdBlock expiresAtBlock = .ok plan ↔
      network = .str plan.network ∧ netuid = .int plan.netuid ∧ validatorHotkey = .str plan.validatorHotkey ∧
        snapshot = plan.snapshot ∧ weights = plan.weights ∧ versionKey = .int plan.versionKey ∧
        createdBlock = .int plan.createdBlock ∧ expiresAtBlock = .int plan.expiresAtBlock := by
  simp only [make, Except.bind_eq_ok, validateNetworkIdentity_eq_ok, validateInteger_eq_ok, validateText_eq_ok,
    require_eq_ok]
  constructor
  · rintro ⟨n, hn, u, hu, v, hv, k, hk, c, hc, e, he, _, _, _, _, _, _, _, _, _, _, _, _, _, _, _, _, _, _, heq⟩
    obtain rfl := Except.ok.inj heq
    exact ⟨hn, hu, hv, rfl, rfl, hk, hc, he⟩
  · rintro ⟨rfl, rfl, rfl, rfl, rfl, rfl, rfl, rfl⟩
    exact ⟨⟨_, plan.network_valid⟩, rfl, ⟨_, plan.netuid_range⟩, rfl, ⟨_, plan.validator_text⟩, rfl,
      ⟨_, plan.version_range⟩, rfl, ⟨_, plan.created_range⟩, rfl, ⟨_, plan.expires_range⟩, rfl,
      ⟨plan.created_eq⟩, plan.created_eq, ⟨plan.window⟩, plan.window, ⟨plan.weights_ne⟩, plan.weights_ne,
      ⟨plan.ordered⟩, plan.ordered, ⟨plan.uids_nodup⟩, plan.uids_nodup, ⟨plan.hotkeys_nodup⟩, plan.hotkeys_nodup,
      ⟨plan.no_validator⟩, plan.no_validator, ⟨plan.normalized⟩, plan.normalized, ⟨plan.renderable⟩,
      plan.renderable, rfl⟩

/-- The UIDs of a plan are strictly ascending. -/
lemma uids_ascending (plan : WeightPlan lib) : (plan.weights.map WeightPlanEntry.uid).Pairwise (· < ·) := by
  have hsorted : plan.weights.Pairwise fun a b => a.key ≤ b.key := by
    rw [plan.ordered]
    exact Sorting.pairwise_sortOn _ _
  have hnodup := plan.uids_nodup
  rw [List.Nodup, List.pairwise_map] at hnodup
  rw [List.pairwise_map]
  refine (hsorted.and hnodup).imp ?_
  rintro a b ⟨hle, hne⟩
  exact lt_of_le_of_ne (Prod.Lex.monotone_fst _ _ hle) hne

/-- A plan lives no longer than the epoch of its snapshot. -/
lemma expires_le_nextEpoch (plan : WeightPlan lib) :
    plan.expiresAtBlock ≤ (plan.snapshot.block / plan.snapshot.tempo + 1) * plan.snapshot.tempo :=
  plan.window.2.trans ((min_le_left _ _).trans (min_le_right _ _))

end WeightPlan

end Weights

end Misscomputer
