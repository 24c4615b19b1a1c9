import Misscomputer.Lib.Sorting
import Misscomputer.Protocol.Documents
import Misscomputer.Static.Parse

set_option relaxedAutoImplicit false
set_option autoImplicit false

/-!
# Sealed contracts

What every versioned contract of the validator shares: the canonical JSON of a document, its SHA-256
digest, and the vocabulary of its fields.

## Main definitions

* `Contract.canonicalJson`, `Contract.digest` — the canonical bytes of a document and their digest.
* `Contract.document` — a JSON object whose members are sorted by their keys.
* `Contract.hex64`, `Contract.dnsLabel`, `Contract.healthPath`, … — what a field of each kind may hold.

## Main results

* `Contract.hex64_digest` — a digest is a field of 64 hexadecimal digits.

## Implementation notes

The strings of the model hold no lone surrogates, which JSON documents could name by an escape.

## References

* `src/misscomputer_subnet/contract_codec.py`
* `src/misscomputer_subnet/organic_contracts.py`, `src/misscomputer_subnet/assignment_probe.py`
-/

namespace Misscomputer

namespace Contract

open Protocol (lowercaseHex hexAfter hexDigit)

/-! ## Canonical documents -/

/-- `canonical_json`. -/
def canonicalJson (j : Json) : List UInt8 := Text.bytes (j.render Static.pythonEscape)

/-- `hashlib.sha256(b).hexdigest()`. -/
def sha256Hex (b : List UInt8) : String := String.ofList (Hex.encode (Sha256.sum256 (b.map UInt8.toNat)))

/-- `digest`. -/
def digest (j : Json) : String := sha256Hex (canonicalJson j)

/-- A JSON object, with the members sorted by their keys. -/
def document (fields : List (String × Json)) : Json :=
  .obj (Sorting.sortOn Prod.fst (fields.map fun field => (field.1.toList, field.2)))

/-- A string member. -/
def text (s : String) : Json := .str s.toList

/-- A member that may be null. -/
def optional {α : Type} (render : α → Json) : Option α → Json
  | none => .null
  | some a => render a

/-! ## The vocabulary of fields -/

/-- `Hex64`, and the digests of `assignment_probe`: 64 lower-case hexadecimal digits. -/
def hex64 (s : String) : Bool := lowercaseHex s 64

/-- `Digest` of `organic_contracts`: `sha256:` and 64 lower-case hexadecimal digits. -/
def sha256Digest (s : String) : Bool := hexAfter "sha256:" s 64

/-- `HexSignature`. -/
def hexSignature (s : String) : Bool := lowercaseHex s 128

/-- `Hotkey`. -/
def hotkey (s : String) : Bool := Protocol.validHotkey s

/-- `UID`. -/
def uid (n : ℤ) : Bool := 0 ≤ n && n ≤ 65535

/-- `MAX_INT` and `MAX_EPOCH`. -/
def maxInt : ℤ := 2 ^ 63 - 1

/-- `PositiveCount`. -/
def positiveCount (n : ℤ) : Bool := 1 ≤ n && n ≤ maxInt

/-- `Count` of `organic_contracts`. -/
def count (n : ℤ) : Bool := 0 ≤ n && n ≤ maxInt

/-- `EndpointID`. -/
def endpointID (s : String) : Bool := 3 ≤ s.toList.length && s.toList.length ≤ 320

/-- A character of a DNS label that is no hyphen. -/
def labelChar (c : Char) : Bool := ('a' ≤ c && c ≤ 'z') || ('0' ≤ c && c ≤ '9')

/-- `DNSLabel`, and `DeploymentID` of `assignment_probe`. -/
def dnsLabel (s : String) : Bool :=
  s.toList.length ≤ 63 && s.toList.all (fun c => labelChar c || c = '-') &&
    (s.toList.head?.any labelChar) && (s.toList.getLast?.any labelChar)

/-- `RESERVED_ROUTE_PREFIXES`. -/
def reservedRoutePrefixes : List String := ["syn-", "readiness-probe", "xn--"]

/-- `RouteLabel`. -/
def routeLabel (s : String) : Bool :=
  dnsLabel s && reservedRoutePrefixes.all fun reserved => !(reserved.toList.isPrefixOf s.toList)

/-- The characters of a health path but its first two. -/
def healthChar (c : Char) : Bool := '\x21' ≤ c && c ≤ '\x7e' && c != '#' && c != '?'

/-- `HealthPath`: absolute, not `//`-prefixed, printable ASCII without `?`, `#` and the space. -/
def healthPath (s : String) : Bool :=
  s.toList.length ≤ 1024 && match s.toList with
    | ['/'] => true
    | '/' :: c :: rest => healthChar c && c != '/' && rest.all healthChar
    | _ => false

/-- `response_status`, where a response has one. -/
def status (n : ℤ) : Bool := 100 ≤ n && n ≤ 599

/-! ## Digests -/

lemma hexDigit_digit {n : ℕ} (h : n < 16) : hexDigit (Hex.digit n) = true := by
  interval_cases n <;> decide

lemma all_hexDigit_encode (b : List ℕ) : (Hex.encode b).all hexDigit = true := by
  rw [List.all_eq_true]
  intro c hc
  obtain ⟨n, -, hc⟩ := List.mem_flatMap.mp hc
  simp only [List.mem_cons, List.not_mem_nil, or_false] at hc
  rcases hc with rfl | rfl <;> exact hexDigit_digit (Nat.mod_lt _ (by decide))

/-- **A digest is a field of 64 hexadecimal digits.** -/
theorem hex64_sha256Hex (b : List UInt8) : hex64 (sha256Hex b) = true := by
  rw [hex64, lowercaseHex, sha256Hex, String.toList_ofList, Hex.encode_length, Sha256.sum256_length,
    all_hexDigit_encode]
  rfl

lemma hex64_digest (j : Json) : hex64 (digest j) = true := hex64_sha256Hex _

/-! ## One digit, repeated -/

section Replicate

variable {c : Char} (hc : hexDigit c = true)
include hc

lemma lowercaseHex_replicate (n : ℕ) : lowercaseHex (String.ofList (List.replicate n c)) n = true := by
  rw [lowercaseHex, String.toList_ofList, List.length_replicate, beq_self_eq_true, Bool.true_and, List.all_eq_true]
  intro d hd
  rwa [List.eq_of_mem_replicate hd]

lemma hex64_replicate : hex64 (String.ofList (List.replicate 64 c)) = true := lowercaseHex_replicate hc 64

lemma sha256Digest_replicate : sha256Digest ("sha256:" ++ String.ofList (List.replicate 64 c)) = true := by
  have hdigits : (String.ofList (List.replicate 64 c)).toList = List.replicate 64 c := String.toList_ofList
  rw [sha256Digest, hexAfter, Protocol.stripPrefix?, String.toList_append, hdigits,
    if_pos (List.prefix_append _ _), List.drop_left]
  dsimp only
  exact lowercaseHex_replicate hc 64

lemma hexSignature_replicate : hexSignature (String.ofList (List.replicate 128 c)) = true :=
  lowercaseHex_replicate hc 128

end Replicate

end Contract

end Misscomputer
