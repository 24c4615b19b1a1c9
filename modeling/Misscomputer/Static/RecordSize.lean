import Misscomputer.Static.Journal

set_option relaxedAutoImplicit false
set_option autoImplicit false

/-!
# The size of a record

Every member of an observation over the direct transport is bounded by its contract, and so is the record of such
an observation: an opening of the journal admits it. The delivered headers of a framed observation that is no
success are not bounded.

## Main results

* `StaticEvidence.length_recordBytes_le` — the record of a direct observation is within the limit of a record.

## References

* `src/misscomputer_subnet/static_probe.py`
* `src/misscomputer_subnet/static_evidence.py`
-/

namespace Misscomputer

open Contract

namespace Contract

/-! ## Members -/

section Fields

variable {s : String} {n : ℤ}

lemma textCost_le_of_length {k : ℕ} (h : s.toList.length ≤ k) : Json.textCost s.toList ≤ 12 * k + 2 := by
  have := Json.textCost_le s.toList
  omega

lemma textCost_hex64 (h : hex64 s = true) : Json.textCost s.toList ≤ 770 := by
  rw [hex64, Protocol.lowercaseHex, Bool.and_eq_true, beq_iff_eq] at h
  exact textCost_le_of_length (k := 64) h.1.le

lemma textCost_hexSignature (h : hexSignature s = true) : Json.textCost s.toList ≤ 1538 := by
  rw [hexSignature, Protocol.lowercaseHex, Bool.and_eq_true, beq_iff_eq] at h
  exact textCost_le_of_length (k := 128) h.1.le

lemma textCost_sha256Digest (h : sha256Digest s = true) : Json.textCost s.toList ≤ 854 := by
  rw [sha256Digest, Protocol.hexAfter, Protocol.stripPrefix?] at h
  split at h
  · rename_i rest hrest
    split at hrest
    · obtain rfl := Option.some.inj hrest
      rw [Protocol.lowercaseHex, Bool.and_eq_true, beq_iff_eq, String.toList_ofList, List.length_drop] at h
      have hlength : ("sha256:".toList).length = 7 := by decide
      exact textCost_le_of_length (k := 71) (by omega)
    · cases hrest
  · cases h

lemma textCost_hotkey (h : hotkey s = true) : Json.textCost s.toList ≤ 1538 := by
  rw [hotkey, Protocol.validHotkey, Bool.and_eq_true, Bool.and_eq_true, decide_eq_true_iff, decide_eq_true_iff] at h
  exact textCost_le_of_length (k := 128) h.1.2

lemma textCost_dnsLabel (h : dnsLabel s = true) : Json.textCost s.toList ≤ 758 := by
  rw [dnsLabel, Bool.and_eq_true, Bool.and_eq_true, Bool.and_eq_true, decide_eq_true_iff] at h
  exact textCost_le_of_length (k := 63) h.1.1.1

lemma textCost_endpointID (h : endpointID s = true) : Json.textCost s.toList ≤ 3842 := by
  rw [endpointID, Bool.and_eq_true, decide_eq_true_iff, decide_eq_true_iff] at h
  exact textCost_le_of_length (k := 320) h.2

lemma printable_of_healthChar {c : Char} (h : healthChar c = true) : Json.Printable c := by
  rw [healthChar, Bool.and_eq_true, Bool.and_eq_true, Bool.and_eq_true, decide_eq_true_iff, decide_eq_true_iff] at h
  obtain ⟨⟨⟨hlow, hhigh⟩, -⟩, -⟩ := h
  have hlow : 33 ≤ c.toNat := hlow
  exact ⟨by omega, hhigh⟩

lemma textCost_healthPath (h : healthPath s = true) : Json.textCost s.toList ≤ 2050 := by
  rw [healthPath, Bool.and_eq_true, decide_eq_true_iff] at h
  obtain ⟨hlength, h⟩ := h
  have hprint : ∀ c ∈ s.toList, Json.Printable c := by
    split at h
    · rename_i heq
      rw [heq]
      decide
    · rename_i c rest heq
      rw [Bool.and_eq_true, Bool.and_eq_true, List.all_eq_true] at h
      rw [heq, List.forall_mem_cons, List.forall_mem_cons]
      exact ⟨by decide, printable_of_healthChar h.1.1, fun c hc => printable_of_healthChar (h.2 c hc)⟩
    · cases h
  rw [Json.textCost_of_printable hprint]
  omega

lemma textCost_utcTimestamp (h : utcTimestamp s = true) : Json.textCost s.toList ≤ 770 := by
  rw [utcTimestamp, Bool.and_eq_true, Bool.and_eq_true, decide_eq_true_iff] at h
  exact textCost_le_of_length (k := 64) h.1.1

lemma cost_num (h : n.natAbs < 10 ^ 19) : (Json.num n).cost ≤ 20 := by
  rw [Json.cost]
  exact Json.length_renderInt_le (by decide) h

lemma cost_positiveCount (h : positiveCount n = true) : (Json.num n).cost ≤ 20 := by
  rw [positiveCount, Bool.and_eq_true, decide_eq_true_iff, decide_eq_true_iff, maxInt] at h
  exact cost_num (by omega)

lemma cost_uid (h : uid n = true) : (Json.num n).cost ≤ 20 := by
  rw [uid, Bool.and_eq_true, decide_eq_true_iff, decide_eq_true_iff] at h
  exact cost_num (by omega)

lemma cost_status (h : status n = true) : (Json.num n).cost ≤ 20 := by
  rw [status, Bool.and_eq_true, decide_eq_true_iff, decide_eq_true_iff] at h
  exact cost_num (by omega)

lemma cost_optional {α : Type} {render : α → Json} {a : Option α} {k : ℕ} (hk : 4 ≤ k)
    (h : ∀ x ∈ a, (render x).cost ≤ k) : (optional render a).cost ≤ k := by
  cases a with
  | none => exact hk
  | some x => exact h x rfl

/-- A document whose keys are short costs little more than its values. -/
lemma cost_document_le {members : List (String × Json)} (h : ∀ m ∈ members, Json.textCost m.1.toList ≤ 72) :
    (document members).cost ≤ 2 + 74 * members.length + (members.map fun m => m.2.cost).sum := by
  have hsum : (members.map fun m => Json.textCost m.1.toList + m.2.cost + 2).sum ≤
      74 * members.length + (members.map fun m => m.2.cost).sum := by
    induction members with
    | nil => exact le_refl 0
    | cons m members ih =>
      rw [List.forall_mem_cons] at h
      have := ih h.2
      rw [List.map_cons, List.map_cons, List.sum_cons, List.sum_cons, List.length_cons]
      omega
  rw [cost_document]
  omega

end Fields

end Contract

/-! ## Attestations -/

namespace Organic.MinerProbeAttestationV2

open StaticIndex (Method)

lemma textCost_method (m : Method) : Json.textCost m.text.toList ≤ 10 := by
  cases m <;> decide

/-- A valid attestation is bounded. -/
lemma cost_toJson_le {a : MinerProbeAttestationV2} (h : a.Valid) : a.toJson.cost ≤ 17000 := by
  obtain ⟨hendpoint, hgeneration, hticket, hartifact, hvalidator, hnonce, hpath, hstatus, hbody, hheader, hobserved,
    hsignature, -⟩ := h
  have hkeys : ∀ m ∈ a.members, Json.textCost m.1.toList ≤ 72 := by
    have hlist : ∀ key ∈ a.members.map Prod.fst, Json.textCost key.toList ≤ 72 := by
      simp only [members, signedMembers, List.map_append, List.map_cons, List.map_nil]
      decide
    exact fun m hm => hlist m.1 (List.mem_map_of_mem hm)
  have hschema : Json.textCost "miss.computer/misscomputer-subnet/miner-probe-attestation".toList ≤ 200 := by
    decide
  have hversion : (Json.num 2).cost ≤ 20 := by decide
  have hle := cost_document_le hkeys
  have hmethod := textCost_method a.requestMethod
  have := textCost_endpointID hendpoint
  have := cost_positiveCount hgeneration
  have := textCost_sha256Digest hticket
  have := textCost_sha256Digest hartifact
  have := textCost_hotkey hvalidator
  have := textCost_hex64 hnonce
  have := textCost_healthPath hpath
  have := cost_status hstatus
  have := textCost_hex64 hbody
  have := textCost_hex64 hheader
  have := textCost_utcTimestamp hobserved
  have := textCost_hexSignature hsignature
  have htext : ∀ s, (text s).cost = Json.textCost s.toList := fun _ => rfl
  simp only [members, signedMembers, List.cons_append, List.nil_append, List.map_cons, List.map_nil, List.sum_cons,
    List.sum_nil, List.length_cons, List.length_nil, htext] at hle
  have hdocument : a.toJson = document a.members := rfl
  rw [hdocument]
  simp only [members, signedMembers, List.cons_append, List.nil_append]
  omega

end Organic.MinerProbeAttestationV2

/-! ## Observations -/

namespace StaticProbe.StaticProbeObservation

open Organic (MinerProbeAttestationV2 ProbeOutcome)
open StaticIndex (Method ResponseKind)

/-- The texts of the literals of an observation are short. -/
lemma textCost_literals (o : StaticProbeObservation) :
    Json.textCost o.probeKind.text.toList ≤ 60 ∧ Json.textCost o.requestMethod.text.toList ≤ 60 ∧
      Json.textCost o.expectedKind.text.toList ≤ 60 ∧ Json.textCost o.outcome.text.toList ≤ 60 ∧
      Json.textCost o.attribution.text.toList ≤ 60 ∧ Json.textCost o.attestationStatus.text.toList ≤ 60 ∧
      ∀ code : StaticFailureCode, Json.textCost code.text.toList ≤ 60 := by
  refine ⟨?_, ?_, ?_, ?_, ?_, ?_, fun code => ?_⟩
  · cases o.probeKind <;> decide
  · cases o.requestMethod <;> decide
  · cases o.expectedKind <;> decide
  · cases o.outcome <;> decide
  · cases o.attribution <;> decide
  · cases o.attestationStatus <;> decide
  · cases code <;> decide

lemma textCost_observationKeys : ∀ key ∈ observationKeys, Json.textCost key.toList ≤ 72 := by
  decide

/-- Bounds of the members of a valid observation, in the order of its keys. -/
def memberBounds : List ℕ :=
  [200, 20, 60, 1538, 758, 854, 854, 770, 3842, 20, 20, 1538, 770, 242, 60, 2050, 60, 20, 20, 770, 770, 20, 60, 60,
    60, 5, 5, 20, 20, 770, 770, 770, 60, 17000, 770]

/-- The members of a valid observation are within their bounds. -/
lemma cost_common {o : StaticProbeObservation} (h : o.Valid) :
    List.Forall₂ (fun (m : String × Json) k => m.2.cost ≤ k) o.common memberBounds := by
  obtain ⟨⟨hvalidator, hdeployment, hsite, hrelease, hpolicy, hendpoint, hgeneration, huid, hminer, hnonce, hissued,
    hpath, hstatus, hlength, hbody, hheader, hlatency, hresponseStatus, hresponseBytes, hresponseBody,
    hresponseHeader, htls, hattestation, -⟩, hdigest, -⟩ := h
  obtain ⟨hkind, hmethod, hexpected, houtcome, hattribution, hattested, hcode⟩ := o.textCost_literals
  have hschema : Json.textCost "miss.computer/misscomputer-subnet/static-probe-observation".toList ≤ 200 := by
    decide
  have hversion : (Json.num o.schemaVersion.number).cost ≤ 20 := by
    cases o.schemaVersion <;> decide
  have hfile : Static.maxFileBytes = 16777216 := rfl
  have hmillis : Organic.maxLatencyMillis = 3600000 := rfl
  have hissued : Json.textCost o.issuedAt.toList ≤ 242 := by
    rw [secondsTimestamp, Bool.and_eq_true, secondsPattern, Bool.and_eq_true, decide_eq_true_iff] at hissued
    exact textCost_le_of_length (k := 20) hissued.1.1.le
  have hlength : (Json.num o.expectedContentLength).cost ≤ 20 := cost_num (by omega)
  have hlatency : (Json.num o.latencyMillis).cost ≤ 20 := cost_num (by omega)
  have hfailure : (optional (fun code : StaticFailureCode => Contract.text code.text) o.failureCode).cost ≤ 60 :=
    cost_optional (by decide) fun code _ => hcode code
  have hresponseStatus : (optional .num o.responseStatus).cost ≤ 20 :=
    cost_optional (by decide) fun n hn => cost_status (hresponseStatus n hn)
  have hresponseBytes : (Json.num o.responseBytes).cost ≤ 20 := cost_num (by omega)
  have hresponseBody : (optional Contract.text o.responseBodySha256).cost ≤ 770 :=
    cost_optional (by decide) fun s hs => textCost_hex64 (hresponseBody s hs)
  have hresponseHeader : (optional Contract.text o.responseHeaderSha256).cost ≤ 770 :=
    cost_optional (by decide) fun s hs => textCost_hex64 (hresponseHeader s hs)
  have htls : (optional Contract.text o.tlsLeafCertificateSha256).cost ≤ 770 :=
    cost_optional (by decide) fun s hs => textCost_hex64 (htls s hs)
  have hattestation : (optional MinerProbeAttestationV2.toJson o.attestation).cost ≤ 17000 :=
    cost_optional (by decide) fun a ha => MinerProbeAttestationV2.cost_toJson_le (hattestation a ha)
  simp only [common, members, memberBounds, List.take_succ_cons, List.cons_append, List.nil_append, List.take_zero,
    List.forall₂_cons, List.forall₂_nil_right_iff, and_true]
  exact ⟨hschema, hversion, hkind, textCost_hotkey hvalidator, textCost_dnsLabel hdeployment,
    textCost_sha256Digest hsite, textCost_sha256Digest hrelease, textCost_hex64 hpolicy,
    textCost_endpointID hendpoint, cost_positiveCount hgeneration, cost_uid huid, textCost_hotkey hminer,
    textCost_hex64 hnonce, hissued, hmethod, textCost_healthPath hpath, hexpected, cost_status hstatus, hlength,
    textCost_hex64 hbody, textCost_hex64 hheader, hlatency, houtcome, hfailure, hattribution, le_refl 5, le_refl 5,
    hresponseStatus, hresponseBytes, hresponseBody, hresponseHeader, htls, hattested, hattestation,
    textCost_hex64 hdigest⟩

/-- **A valid observation over the direct transport is bounded.** -/
lemma cost_toJson_le {o : StaticProbeObservation} (h : o.Valid) (hdirect : o.schemaVersion = .direct) :
    o.toJson.cost ≤ 52000 := by
  have hkeys : ∀ m ∈ o.common, Json.textCost m.1.toList ≤ 72 := fun m hm =>
    textCost_observationKeys m.1 (o.keys_common ▸ List.mem_map_of_mem hm)
  have hle := cost_document_le hkeys
  have hmembers := cost_common h
  have hlength : o.common.length = 35 := hmembers.length_eq
  have hsum : (o.common.map fun m => m.2.cost).sum ≤ memberBounds.sum := by
    rw [← List.forall₂_map_left_iff (R := fun c k => c ≤ k)] at hmembers
    exact hmembers.sum_le_sum
  have htotal : memberBounds.sum = 35626 := by decide
  rw [toJson_direct hdirect]
  omega

end StaticProbe.StaticProbeObservation

/-! ## Records -/

namespace StaticEvidence

open StaticProbe (StaticProbeObservation)

/-- **The record of a direct observation is within the limit of a record.** -/
theorem length_recordBytes_le {r : StaticEvidenceRecord} (h : r.Valid) (hdirect : r.schemaVersion = .direct) :
    (recordBytes r).length ≤ maxEvidenceRecordBytes := by
  obtain ⟨hindex, hprior, hobservation, hdigest, hschema, -⟩ := h
  have hkeys : ∀ m ∈ r.members ++ [("record_digest_sha256", text r.recordDigestSha256)],
      Json.textCost m.1.toList ≤ 72 := by
    have hlist : ∀ key ∈ recordKeys, Json.textCost key.toList ≤ 72 := by decide
    exact fun m hm => hlist m.1 (List.mem_map_of_mem (f := Prod.fst) hm)
  have hle := cost_document_le hkeys
  have hname : Json.textCost recordSchema.toList ≤ 200 := by decide
  have hversion : (Json.num r.schemaVersion.number).cost ≤ 20 := by
    cases r.schemaVersion <;> decide
  have hmax : maxEvidenceRecords = 1048576 := rfl
  have hnumber : (Json.num r.recordIndex).cost ≤ 20 := cost_num (by omega)
  have hlink : (optional text r.priorRecordDigestSha256).cost ≤ 770 :=
    cost_optional (by decide) fun s hs => textCost_hex64 (hprior s hs)
  have hobserved := StaticProbeObservation.cost_toJson_le hobservation (hschema.symm.trans hdirect)
  have hseal := textCost_hex64 hdigest
  have htext : ∀ s, (text s).cost = Json.textCost s.toList := fun _ => rfl
  have hcanonical := length_canonicalJson_le r.toJson
  have hjson : r.toJson.cost ≤ 60000 := by
    refine le_trans hle ?_
    simp only [StaticEvidenceRecord.members, List.cons_append, List.nil_append, List.map_cons, List.map_nil,
      List.sum_cons, List.sum_nil, List.length_cons, List.length_nil, htext]
    omega
  have hbytes : recordBytes r = canonicalJson r.toJson ++ [10] := rfl
  rw [hbytes, List.length_append, List.length_singleton, maxEvidenceRecordBytes]
  omega

end StaticEvidence

end Misscomputer
