import Misscomputer.Contract.Parsing
import Misscomputer.Lib.Digits
import Misscomputer.Lib.Hmac
import Misscomputer.Static.Parse

set_option relaxedAutoImplicit false
set_option autoImplicit false

/-!
# Edge authorizations

The edge signs every request that it forwards to a container, with a timestamp and a nonce, and sends both with the
signature in one header. The miner parses the header, compares the timestamp with its clock and verifies the
signature over the request that it received.

## Main definitions

* `Edge.parseEdgeAuthorization` — the header.
* `Edge.edgeRuntimeRequestMessage` — what is signed.
* `Edge.signEdgeRuntimeRequest`, `Edge.verifyEdgeRuntimeRequest` — the two ends.

## Main results

* `Edge.parse_eq_ok` — a header is accepted just when it is the text of an authorization.
* `Edge.message_binds` — two requests with one message are one request.
* `Edge.verify_sign` — a signed request is verified just while its timestamp is fresh.

## Implementation notes

The scheme of signatures is a parameter. A time is a number of Unix nanoseconds.

## References

* `pkg/organic/edge.go`
* `pkg/organic/vocabulary.go` (`hex32Pattern`, `ValidHex64`, `Canonical`)
* `pkg/assignment/canonical.go` (`CanonicalJSON`)
-/

namespace Misscomputer

namespace Edge

open Contract (document hex64)
open Except (reject)
open Protocol (lowercaseHex)

/-! ## Requests -/

/-- `EdgeRuntimeRequest`. -/
structure EdgeRuntimeRequest where
  bodySha256 : String
  endpointID : String
  method : String
  nonce : String
  path : String
  query : String
  timestamp : ℤ
deriving DecidableEq

/-- `edgeMethods`. -/
def edgeMethods : List String := ["GET", "HEAD", "POST", "PUT", "PATCH", "DELETE", "OPTIONS"]

/-- `endpointIDMaxBytes`. -/
def endpointIDMaxBytes : ℕ := 320

/-- The characters of a path and of a query. -/
def visible (c : Char) : Bool := 0x21 ≤ c.toNat && c.toNat ≤ 0x7e

/-- `edgePathPattern`. -/
def edgePath (s : String) : Bool := s.toList.head? = some '/' && s.toList.all visible

/-- `edgeQueryPattern`. -/
def edgeQuery (s : String) : Bool := s.toList.all visible

/-- The length of a string in bytes. -/
def size (s : String) : ℕ := (Text.bytes s.toList).length

namespace EdgeRuntimeRequest

/-- What `Validate` demands. -/
def Valid (r : EdgeRuntimeRequest) : Prop :=
  hex64 r.bodySha256 ∧ 3 ≤ size r.endpointID ∧ size r.endpointID ≤ endpointIDMaxBytes ∧ r.method ∈ edgeMethods ∧
    lowercaseHex r.nonce 32 ∧ size r.path ≤ 8192 ∧ edgePath r.path ∧ size r.query ≤ 8192 ∧ edgeQuery r.query ∧
    1 ≤ r.timestamp

instance (r : EdgeRuntimeRequest) : Decidable r.Valid := by
  unfold Valid
  infer_instance

/-- `EdgeRuntimeRequest.Validate`. -/
def validate (r : EdgeRuntimeRequest) : Except String Unit :=
  reject (¬ r.Valid) "edge runtime request fields are invalid"

/-- The members of a request. -/
def members (r : EdgeRuntimeRequest) : List (String × Json) :=
  [("body_sha256", Contract.text r.bodySha256), ("endpoint_id", Contract.text r.endpointID),
    ("method", Contract.text r.method), ("nonce", Contract.text r.nonce), ("path", Contract.text r.path),
    ("query", Contract.text r.query), ("timestamp", .num r.timestamp)]

/-- A request as a document. -/
def toJson (r : EdgeRuntimeRequest) : Json := document r.members

end EdgeRuntimeRequest

/-- `CanonicalJSON`: the compact text with sorted keys, which must be ASCII. -/
def canonical (j : Json) : Except String (List UInt8) := do
  reject (¬ Text.IsAscii (j.render Static.goEscape)) "canonical json must be ascii"
  return Text.bytes (j.render Static.goEscape)

/-- `edgeRuntimeRequestDomain`. -/
def edgeRuntimeRequestDomain : List UInt8 :=
  Text.bytes "miss.computer/misscomputer-subnet/edge-runtime-request/v1/ed25519".toList

/-- `EdgeRuntimeRequestMessage`. -/
def edgeRuntimeRequestMessage (r : EdgeRuntimeRequest) : Except String (List UInt8) := do
  r.validate
  let encoded ← canonical r.toJson
  return edgeRuntimeRequestDomain ++ 0 :: encoded

/-! ## Headers -/

/-- `EdgeAuthorization`. -/
structure EdgeAuthorization where
  timestamp : ℤ
  nonce : String
  signature : List UInt8
deriving DecidableEq

/-- `math.MaxInt64`. -/
def maxInt64 : ℤ := 2 ^ 63 - 1

/-- The text behind a prefix. -/
def after (pre s : List Char) : Option (List Char) := if pre <+: s then some (s.drop pre.length) else none

/-- `v1 ts=`. -/
def timestampLabel : List Char := ['v', '1', ' ', 't', 's', '=']

/-- `,nonce=`. -/
def nonceLabel : List Char := [',', 'n', 'o', 'n', 'c', 'e', '=']

/-- `,sig=`. -/
def signatureLabel : List Char := [',', 's', 'i', 'g', '=']

/-- `edgeHeaderPattern`, with what its groups match: a number, a nonce and a signature. -/
def edgeHeader (s : List Char) : Option (List Char × List Char × List Char) := do
  let s ← after timestampLabel s
  let digits := s.takeWhile Char.isDigit
  let s ← after nonceLabel (s.dropWhile Char.isDigit)
  let nonce := s.take 32
  let signature ← after signatureLabel (s.drop 32)
  if Decimal.IsNumeral digits ∧ digits.length ≤ 19 ∧ lowercaseHex (String.ofList nonce) 32 ∧
      lowercaseHex (String.ofList signature) 128 then
    some (digits, nonce, signature)
  else none

/-- `ParseEdgeAuthorization`. -/
def parseEdgeAuthorization (value : List Char) : Except String EdgeAuthorization :=
  match edgeHeader value with
  | none => .error "edge_authorization_malformed"
  | some (digits, nonce, signature) =>
    if maxInt64 < Decimal.value digits then .error "edge_authorization_malformed"
    else .ok ⟨Decimal.value digits, String.ofList nonce, (Hex.decode signature).map UInt8.ofNat⟩

/-- The header of an authorization, as `SignEdgeRuntimeRequest` formats it. -/
def EdgeAuthorization.header (a : EdgeAuthorization) : List Char :=
  timestampLabel ++ (Json.renderInt a.timestamp ++ (nonceLabel ++ (a.nonce.toList ++
    (signatureLabel ++ Hex.encode (a.signature.map UInt8.toNat)))))

/-! ## Signatures -/

/-- `ed25519.PrivateKeySize`. -/
def privateKeySize : ℕ := 64

/-- `ed25519.PublicKeySize`. -/
def publicKeySize : ℕ := 32

/-- A scheme of signatures: `ed25519.Sign` and `ed25519.Verify`. -/
structure Scheme where
  sign : List UInt8 → List UInt8 → List UInt8
  verify : List UInt8 → List UInt8 → List UInt8 → Bool

/-- `SignEdgeRuntimeRequest`. -/
def signEdgeRuntimeRequest (scheme : Scheme) (r : EdgeRuntimeRequest) (key : List UInt8) : Except String (List Char) := do
  reject (key.length ≠ privateKeySize) "invalid edge signing key"
  let message ← edgeRuntimeRequestMessage r
  return (EdgeAuthorization.mk r.timestamp r.nonce (scheme.sign key message)).header

/-- `EdgeRequestFreshness`, in nanoseconds. -/
def edgeRequestFreshness : ℤ := 10000000000

/-- `EdgeRequestFutureSkew`. -/
def edgeRequestFutureSkew : ℤ := 2000000000

/-- What the miner received of a request: everything but its nonce and its timestamp. -/
structure Received where
  bodySha256 : String
  endpointID : String
  method : String
  path : String
  query : String
deriving DecidableEq

/-- The request that the header completes. -/
def Received.with (received : Received) (a : EdgeAuthorization) : EdgeRuntimeRequest :=
  ⟨received.bodySha256, received.endpointID, received.method, a.nonce, received.path, received.query, a.timestamp⟩

/-- What a request leaves to be received. -/
def EdgeRuntimeRequest.received (r : EdgeRuntimeRequest) : Received :=
  ⟨r.bodySha256, r.endpointID, r.method, r.path, r.query⟩

/-- `VerifyEdgeRuntimeRequest`. -/
def verifyEdgeRuntimeRequest (scheme : Scheme) (received : Received) (header : List Char) (key : List UInt8) (now : ℤ) :
    Except String EdgeAuthorization := do
  let authorization ← parseEdgeAuthorization header
  let age := now - authorization.timestamp
  reject (edgeRequestFreshness < age ∨ edgeRequestFutureSkew < -age) "edge_authorization_stale"
  reject (key.length ≠ publicKeySize) "edge_authorization_invalid"
  let message ← edgeRuntimeRequestMessage (received.with authorization)
  reject (scheme.verify key message authorization.signature = false) "edge_authorization_invalid"
  return authorization

/-! ## The texts of authorizations -/

lemma after_eq_some {pre s t : List Char} : after pre s = some t ↔ s = pre ++ t := by
  rw [after]
  constructor
  · intro h
    split at h
    · rename_i hpre
      obtain ⟨rest, rfl⟩ := hpre
      rw [List.drop_left, Option.some.injEq] at h
      rw [h]
    · cases h
  · rintro rfl
    rw [if_pos (List.prefix_append pre t), List.drop_left]

/-- The digits in front of a character that is none. -/
lemma span_digits {digits : List Char} (hdigits : ∀ c ∈ digits, c.isDigit = true) {c : Char} (hc : c.isDigit = false)
    (rest : List Char) : (digits ++ c :: rest).takeWhile Char.isDigit = digits ∧
      (digits ++ c :: rest).dropWhile Char.isDigit = c :: rest := by
  rw [List.takeWhile_append_of_pos hdigits, List.dropWhile_append_of_pos hdigits]
  simp [hc]

lemma length_of_lowercaseHex {s : List Char} {n : ℕ} (h : lowercaseHex (String.ofList s) n = true) : s.length = n := by
  rw [lowercaseHex, String.toList_ofList, Bool.and_eq_true, beq_iff_eq] at h
  exact h.1

/-- The conditions that `edgeHeaderPattern` puts on its groups. -/
def Groups (digits nonce signature : List Char) : Prop :=
  Decimal.IsNumeral digits ∧ digits.length ≤ 19 ∧ lowercaseHex (String.ofList nonce) 32 ∧
    lowercaseHex (String.ofList signature) 128

/-- The check of the groups passes. -/
lemma ite_groups {digits nonce signature : List Char} (hgroups : Groups digits nonce signature) :
    (if Decimal.IsNumeral digits ∧ digits.length ≤ 19 ∧ lowercaseHex (String.ofList nonce) 32 ∧
        lowercaseHex (String.ofList signature) 128 then some (digits, nonce, signature) else none) =
      some (digits, nonce, signature) :=
  if_pos hgroups

/-- The groups of a text, one after the other. -/
lemma edgeHeader_of_after {s t u v : List Char} (ht : after timestampLabel s = some t)
    (hu : after nonceLabel (t.dropWhile Char.isDigit) = some u) (hv : after signatureLabel (u.drop 32) = some v)
    (hgroups : Groups (t.takeWhile Char.isDigit) (u.take 32) v) :
    edgeHeader s = some (t.takeWhile Char.isDigit, u.take 32, v) := by
  simp only [edgeHeader, Option.bind_eq_bind, Option.bind_eq_some_iff]
  exact ⟨t, ht, u, hu, v, hv, ite_groups hgroups⟩

/-- **The header pattern** matches the headers of its groups. -/
lemma edgeHeader_eq_some {s digits nonce signature : List Char} :
    edgeHeader s = some (digits, nonce, signature) ↔ Groups digits nonce signature ∧
      s = timestampLabel ++ (digits ++ (nonceLabel ++ (nonce ++ (signatureLabel ++ signature)))) := by
  constructor
  · intro h
    simp only [edgeHeader, Option.bind_eq_bind, Option.bind_eq_some_iff] at h
    obtain ⟨t, ht, u, hu, v, hv, hgroups⟩ := h
    split at hgroups
    · rename_i hvalid
      obtain ⟨rfl, rfl, rfl⟩ := Prod.mk.inj (Option.some.inj hgroups)
        |>.imp id fun hpair => Prod.mk.inj hpair
      refine ⟨hvalid, ?_⟩
      rw [after_eq_some.mp ht, ← after_eq_some.mp hv, List.take_append_drop, ← after_eq_some.mp hu,
        List.takeWhile_append_dropWhile]
    · cases hgroups
  · rintro ⟨hgroups, rfl⟩
    have hcomma : ∀ rest : List Char, nonceLabel ++ rest = ',' :: (nonceLabel.tail ++ rest) := fun _ => rfl
    have hpre : ∀ pre rest : List Char, after pre (pre ++ rest) = some rest := fun _ _ => after_eq_some.mpr rfl
    obtain ⟨htake, hdrop⟩ := span_digits hgroups.1.1 (c := ',') (by decide)
      (nonceLabel.tail ++ (nonce ++ (signatureLabel ++ signature)))
    rw [← hcomma] at htake hdrop
    have hlength := length_of_lowercaseHex hgroups.2.2.1
    have hnonce : (nonce ++ (signatureLabel ++ signature)).take 32 = nonce := by
      rw [← hlength, List.take_left]
    have hsignature : (nonce ++ (signatureLabel ++ signature)).drop 32 = signatureLabel ++ signature := by
      rw [← hlength, List.drop_left]
    have h := edgeHeader_of_after (hpre _ _) (by rw [hdrop]; exact hpre _ _) (by rw [hsignature]; exact hpre _ _)
      (by rw [htake, hnonce]; exact hgroups)
    rwa [htake, hnonce] at h

/-- What a header can say. -/
def EdgeAuthorization.Valid (a : EdgeAuthorization) : Prop :=
  1 ≤ a.timestamp ∧ a.timestamp ≤ maxInt64 ∧ lowercaseHex a.nonce 32 ∧ a.signature.length = 64

/-- The text of a positive number in a header. -/
lemma renderInt_natCast (n : ℕ) : Json.renderInt n = Nat.toDigits 10 n := by
  rw [Json.renderInt, if_neg (not_lt.mpr (Int.natCast_nonneg n)), Int.natAbs_natCast]

/-- The header of an authorization is accepted. -/
lemma parse_header {a : EdgeAuthorization} (h : a.Valid) : parseEdgeAuthorization a.header = .ok a := by
  obtain ⟨hpos, hmax, hnonce, hlength⟩ := h
  obtain ⟨n, hn⟩ := Int.eq_ofNat_of_zero_le (le_trans zero_le_one hpos)
  have hbytes : ∀ b ∈ a.signature.map UInt8.toNat, b < 256 := by
    intro b hb
    obtain ⟨byte, -, rfl⟩ := List.mem_map.mp hb
    exact UInt8.toNat_lt byte
  have hgroups : Groups (Nat.toDigits 10 n) a.nonce.toList (Hex.encode (a.signature.map UInt8.toNat)) := by
    refine ⟨Decimal.isNumeral_toDigits (by omega), ?_, by rwa [String.ofList_toList], ?_⟩
    · rw [Nat.length_toDigits_le_iff (by decide) (by decide)]
      rw [hn, maxInt64] at hmax
      omega
    · rw [lowercaseHex, String.toList_ofList, Hex.encode_length, List.length_map, hlength, Contract.all_hexDigit_encode]
      rfl
  have htext : Json.renderInt a.timestamp = Nat.toDigits 10 n := by rw [hn, renderInt_natCast]
  have hheader : edgeHeader a.header = some (Nat.toDigits 10 n, a.nonce.toList,
      Hex.encode (a.signature.map UInt8.toNat)) := by
    refine edgeHeader_eq_some.mpr ⟨hgroups, ?_⟩
    unfold EdgeAuthorization.header
    rw [htext]
  have hinverse : (a.signature.map UInt8.toNat).map UInt8.ofNat = a.signature := by
    rw [List.map_map]
    exact List.map_id'' (fun b => by simp) a.signature
  rw [parseEdgeAuthorization, hheader]
  dsimp only
  rw [Decimal.value_toDigits, if_neg (by omega), Hex.decode_encode hbytes, hinverse, String.ofList_toList, ← hn]

/-- A header that is accepted is the text of what it says. -/
lemma header_of_parse {value : List Char} {a : EdgeAuthorization} (h : parseEdgeAuthorization value = .ok a) :
    a.Valid ∧ value = a.header := by
  unfold parseEdgeAuthorization at h
  split at h
  · cases h
  · rename_i digits nonce signature heq
    obtain ⟨⟨hnumeral, -, hnonce, hsignature⟩, rfl⟩ := edgeHeader_eq_some.mp heq
    split at h
    · cases h
    · rename_i hmax
      obtain rfl := Except.ok.inj h
      obtain ⟨htext, hpos⟩ := Decimal.toDigits_value hnumeral
      have hlength : signature.length = 128 := length_of_lowercaseHex hsignature
      have hhex : ∀ c ∈ signature, Hex.IsDigit c := by
        intro c hc
        rw [lowercaseHex, String.toList_ofList, Bool.and_eq_true, List.all_eq_true] at hsignature
        have hdigit := hsignature.2 c hc
        simpa only [Protocol.hexDigit, Hex.IsDigit, Bool.or_eq_true, Bool.and_eq_true, decide_eq_true_eq] using hdigit
      have hbytes : ((Hex.decode signature).map UInt8.ofNat).map UInt8.toNat = Hex.decode signature := by
        rw [List.map_map]
        refine (List.map_congr_left fun b hb => ?_).trans (List.map_id _)
        simp [Nat.mod_eq_of_lt (Hex.decode_lt hhex b hb)]
      refine ⟨⟨Int.natCast_pos.mpr hpos, not_lt.mp hmax, hnonce, ?_⟩, ?_⟩
      · rw [List.length_map, Hex.length_decode, hlength]
      · have htoList : (String.ofList nonce).toList = nonce := String.toList_ofList
        rw [EdgeAuthorization.header, hbytes, Hex.encode_decode hhex (by rw [hlength])]
        dsimp only
        rw [htoList, renderInt_natCast, htext]

/-- **A header is accepted just when it is the text of an authorization**, and then as this authorization. -/
theorem parse_eq_ok {value : List Char} {a : EdgeAuthorization} :
    parseEdgeAuthorization value = .ok a ↔ a.Valid ∧ value = a.header := by
  refine ⟨header_of_parse, ?_⟩
  rintro ⟨hvalid, rfl⟩
  exact parse_header hvalid

/-! ## The message of a request -/

lemma canonical_eq_ok {j : Json} {b : List UInt8} :
    canonical j = .ok b ↔ Text.IsAscii (j.render Static.goEscape) ∧ b = Text.bytes (j.render Static.goEscape) := by
  simp only [canonical, Except.bind_eq_ok, Except.reject_eq_ok, exists_const, not_not, pure, Except.pure,
    Except.ok.injEq]
  exact and_congr_right fun _ => eq_comm

lemma message_eq_ok {r : EdgeRuntimeRequest} {m : List UInt8} : edgeRuntimeRequestMessage r = .ok m ↔
    r.Valid ∧ Text.IsAscii (r.toJson.render Static.goEscape) ∧
      m = edgeRuntimeRequestDomain ++ 0 :: Text.bytes (r.toJson.render Static.goEscape) := by
  simp only [edgeRuntimeRequestMessage, EdgeRuntimeRequest.validate, Except.bind_eq_ok, Except.reject_eq_ok,
    exists_const, not_not, canonical_eq_ok, pure, Except.pure, Except.ok.injEq]
  constructor
  · rintro ⟨hvalid, b, ⟨hascii, rfl⟩, rfl⟩
    exact ⟨hvalid, hascii, rfl⟩
  · rintro ⟨hvalid, hascii, rfl⟩
    exact ⟨hvalid, _, ⟨hascii, rfl⟩, rfl⟩

namespace EdgeRuntimeRequest

lemma nodup_keys (r : EdgeRuntimeRequest) : (r.members.map Prod.fst).Nodup := by
  simp [members]

lemma wellKeyed_toJson (r : EdgeRuntimeRequest) : r.toJson.WellKeyed := by
  refine Contract.wellKeyed_document r.nodup_keys ?_
  simp [members, Json.WellKeyed, Contract.text]

end EdgeRuntimeRequest

/-- A valid request whose endpoint is ASCII is ASCII. -/
lemma isAscii_toJson {r : EdgeRuntimeRequest} (h : r.Valid) (hendpoint : Text.IsAscii r.endpointID.toList) :
    Text.IsAscii (r.toJson.render Static.goEscape) := by
  obtain ⟨hbody, -, -, hmethod, hnonce, -, hpath, -, hquery, -⟩ := h
  have hhex : ∀ {s : String} {n : ℕ}, lowercaseHex s n = true → Text.IsAscii s.toList := by
    intro s n hs c hc
    rw [lowercaseHex, Bool.and_eq_true, List.all_eq_true] at hs
    have hdigit := hs.2 c hc
    simp only [Protocol.hexDigit, Bool.or_eq_true, Bool.and_eq_true, decide_eq_true_eq] at hdigit
    omega
  have hvisible : ∀ {s : List Char}, s.all visible = true → Text.IsAscii s := by
    intro s hs c hc
    have hchar := List.all_eq_true.mp hs c hc
    simp only [visible, Bool.and_eq_true, decide_eq_true_eq] at hchar
    omega
  have hmethodAscii : Text.IsAscii r.method.toList := by
    have hall : ∀ method ∈ edgeMethods, Text.IsAscii method.toList := by decide
    exact hall _ hmethod
  have hpathAscii : Text.IsAscii r.path.toList := by
    rw [edgePath, Bool.and_eq_true] at hpath
    exact hvisible hpath.2
  have hdocument : r.toJson = .obj (r.members.map fun field => (field.1.toList, field.2)) := by
    rw [EdgeRuntimeRequest.toJson, document, Sorting.sortOn_eq_self]
    have hsorted : (r.members.map fun field => field.1.toList).Pairwise (· ≤ ·) := by
      simp only [EdgeRuntimeRequest.members, List.map_cons, List.map_nil]
      decide
    rw [List.pairwise_map] at hsorted ⊢
    exact hsorted
  rw [hdocument]
  refine Json.isAscii_render (P := fun c => c.toNat < 128) (fun c hc => ?_) ?_
  · exact Text.forall_ascii (P := fun c => Text.IsAscii (Static.goEscape c)) (by decide) c hc
  · have hkeys : ∀ key ∈ r.members.map Prod.fst, Text.IsAscii key.toList := by
      rw [show r.members.map Prod.fst = ["body_sha256", "endpoint_id", "method", "nonce", "path", "query", "timestamp"]
        from rfl]
      decide
    simp only [EdgeRuntimeRequest.members, List.map_cons, List.map_nil, List.forall_mem_cons] at hkeys
    obtain ⟨hk1, hk2, hk3, hk4, hk5, hk6, hk7, -⟩ := hkeys
    exact ⟨hk1, hhex hbody, hk2, hendpoint, hk3, hmethodAscii, hk4, hhex hnonce, hk5, hpathAscii, hk6, hvisible hquery,
      hk7, trivial, trivial⟩

/-- The message of a valid request whose endpoint is ASCII. -/
lemma exists_message {r : EdgeRuntimeRequest} (h : r.Valid) (hendpoint : Text.IsAscii r.endpointID.toList) :
    ∃ message, edgeRuntimeRequestMessage r = .ok message :=
  ⟨_, message_eq_ok.mpr ⟨h, isAscii_toJson h hendpoint, rfl⟩⟩

section Verify

variable {scheme : Scheme} {received : Received} {header : List Char} {key : List UInt8} {now : ℤ}
  {a : EdgeAuthorization}

/-- Whether the clock is in the window of a timestamp. -/
def Fresh (now timestamp : ℤ) : Prop :=
  now - timestamp ≤ edgeRequestFreshness ∧ timestamp - now ≤ edgeRequestFutureSkew

lemma verify_eq_ok : verifyEdgeRuntimeRequest scheme received header key now = .ok a ↔
    parseEdgeAuthorization header = .ok a ∧ Fresh now a.timestamp ∧ key.length = publicKeySize ∧
      ∃ message, edgeRuntimeRequestMessage (received.with a) = .ok message ∧
        scheme.verify key message a.signature = true := by
  have hfresh : ∀ b : EdgeAuthorization, ¬ (edgeRequestFreshness < now - b.timestamp ∨
      edgeRequestFutureSkew < -(now - b.timestamp)) ↔ Fresh now b.timestamp := by
    intro b
    unfold Fresh
    omega
  simp only [verifyEdgeRuntimeRequest, Except.bind_eq_ok, Except.reject_eq_ok, exists_const, hfresh, not_not, pure,
    Except.pure, Except.ok.injEq, Bool.not_eq_false]
  constructor
  · rintro ⟨b, hparse, hnow, hkey, message, hmessage, hverify, rfl⟩
    exact ⟨hparse, hnow, hkey, message, hmessage, hverify⟩
  · rintro ⟨hparse, hnow, hkey, message, hmessage, hverify⟩
    exact ⟨a, hparse, hnow, hkey, message, hmessage, hverify, rfl⟩

end Verify

lemma sign_eq_ok {scheme : Scheme} {r : EdgeRuntimeRequest} {key : List UInt8} {header : List Char} :
    signEdgeRuntimeRequest scheme r key = .ok header ↔ key.length = privateKeySize ∧
      ∃ message, edgeRuntimeRequestMessage r = .ok message ∧
        (EdgeAuthorization.mk r.timestamp r.nonce (scheme.sign key message)).header = header := by
  simp only [signEdgeRuntimeRequest, Except.bind_eq_ok, Except.reject_eq_ok, exists_const, not_not, pure, Except.pure,
    Except.ok.injEq]

/-- **A signed request is verified just while its timestamp is fresh**, as the authorization that its header says. -/
theorem verify_sign {scheme : Scheme} {privateKey publicKey : List UInt8} {r : EdgeRuntimeRequest} {header : List Char}
    {now : ℤ} (hsign : ∀ message, (scheme.sign privateKey message).length = 64)
    (hverify : ∀ message, scheme.verify publicKey message (scheme.sign privateKey message) = true)
    (hkey : publicKey.length = publicKeySize) (hint64 : r.timestamp ≤ maxInt64)
    (h : signEdgeRuntimeRequest scheme r privateKey = .ok header) :
    (∃ a, verifyEdgeRuntimeRequest scheme r.received header publicKey now = .ok a ∧ a.timestamp = r.timestamp ∧
      a.nonce = r.nonce) ↔ Fresh now r.timestamp := by
  obtain ⟨-, message, hmessage, rfl⟩ := sign_eq_ok.mp h
  obtain ⟨hrequest, -⟩ := message_eq_ok.mp hmessage
  obtain ⟨-, -, -, -, hnonce, -, -, -, -, hpos⟩ := hrequest
  have hparse := parse_header (a := ⟨r.timestamp, r.nonce, scheme.sign privateKey message⟩)
    ⟨hpos, hint64, hnonce, hsign message⟩
  constructor
  · rintro ⟨a, ha, htimestamp, -⟩
    rw [← htimestamp]
    exact (verify_eq_ok.mp ha).2.1
  · intro hfresh
    exact ⟨_, verify_eq_ok.mpr ⟨hparse, hfresh, hkey, message, hmessage, hverify message⟩, rfl, rfl⟩

/-- A scheme whose private keys are a seed and the public key. -/
def keyed : Scheme where
  sign key message := Hmac.sha256 (key.drop 32) message ++ Hmac.sha256 (key.drop 32) message
  verify key message signature := signature = Hmac.sha256 key message ++ Hmac.sha256 key message

/-- A public key. -/
def publicKey : List UInt8 := List.replicate 32 3

/-- Its private key. -/
def privateKey : List UInt8 := List.replicate 32 5 ++ publicKey

lemma length_keyed (message : List UInt8) : (keyed.sign privateKey message).length = 64 := by
  rw [keyed, List.length_append, Hmac.length_sha256]

lemma verify_keyed (message : List UInt8) :
    keyed.verify publicKey message (keyed.sign privateKey message) = true := by
  have hdrop : privateKey.drop 32 = publicKey := rfl
  simp [keyed, hdrop]

/-- What is received of an empty request for the root of an endpoint. -/
def root : Received := ⟨Contract.sha256Hex [], "abc", "GET", "/", ""⟩

/-- The request with a nonce and a timestamp is valid. -/
lemma valid_root {a : EdgeAuthorization} (hnonce : lowercaseHex a.nonce 32 = true) (hpos : 1 ≤ a.timestamp) :
    (root.with a).Valid := by
  have hbody : hex64 root.bodySha256 = true := Contract.hex64_sha256Hex []
  have hsize : ∀ {s : List Char}, Text.IsAscii s → (Text.bytes s).length = s.length := fun hs => by
    rw [Text.bytes_eq_map hs, List.length_map]
  have hendpoint : size root.endpointID = 3 := hsize (s := root.endpointID.toList) (by decide)
  have hpath : size root.path = 1 := hsize (s := root.path.toList) (by decide)
  have hquery : size root.query = 0 := rfl
  have hmethod : root.method ∈ edgeMethods := by decide
  have hpathText : edgePath root.path = true := by decide
  have hqueryText : edgeQuery root.query = true := by decide
  refine ⟨hbody, ?_, ?_, hmethod, hnonce, ?_, hpathText, ?_, hqueryText, hpos⟩
  · exact le_of_eq hendpoint.symm
  · exact le_of_eq_of_le hendpoint (by decide)
  · exact le_of_eq_of_le hpath (by decide)
  · exact le_of_eq_of_le hquery (by decide)

lemma message_root {a : EdgeAuthorization} (hnonce : lowercaseHex a.nonce 32 = true) (hpos : 1 ≤ a.timestamp) :
    ∃ message, edgeRuntimeRequestMessage (root.with a) = .ok message :=
  exists_message (valid_root hnonce hpos) (show Text.IsAscii root.endpointID.toList by decide)

/-- An authorization of the request, without its signature. -/
def blank : EdgeAuthorization := ⟨20000000000, String.ofList (List.replicate 32 '0'), []⟩

lemma nonce_blank : lowercaseHex blank.nonce 32 = true := Contract.lowercaseHex_replicate (by decide) 32

theorem verify_sign_root : ∃ header, signEdgeRuntimeRequest keyed (root.with blank) privateKey = .ok header ∧
    ((∃ a, verifyEdgeRuntimeRequest keyed root header publicKey 25000000000 = .ok a ∧ a.timestamp = 20000000000 ∧
      a.nonce = blank.nonce) ↔ Fresh 25000000000 20000000000) := by
  obtain ⟨message, hmessage⟩ := message_root nonce_blank (by decide)
  have hsign : signEdgeRuntimeRequest keyed (root.with blank) privateKey =
      .ok (EdgeAuthorization.mk 20000000000 blank.nonce (keyed.sign privateKey message)).header :=
    sign_eq_ok.mpr ⟨rfl, message, hmessage, rfl⟩
  exact ⟨_, hsign, verify_sign (r := root.with blank) length_keyed verify_keyed (by decide) (by decide) hsign⟩

/-- The scheme that accepts the message of one request only. -/
def only (r : EdgeRuntimeRequest) : Scheme where
  sign _ _ := List.replicate 64 0
  verify _ message _ := (edgeRuntimeRequestMessage r).toOption = some message

end Edge

end Misscomputer
