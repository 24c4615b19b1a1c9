import Misscomputer.Lib.Lines
import Misscomputer.Static.Documents

set_option relaxedAutoImplicit false
set_option autoImplicit false

/-!
# The evidence journal

The validator's journal of sealed observations: one file of canonical records, each chained to the one before
it. Opening verifies the whole file. An append writes one line and syncs it before it is reported; the write may
stop anywhere and the sync may fail.

## Main definitions

* `StaticEvidence.StaticEvidenceRecord` — an entry, and its contract `StaticEvidenceRecord.model`.
* `StaticEvidence.appendStaticEvidence`, `StaticEvidence.verifyStaticEvidenceChain` — the chain.
* `StaticEvidence.openJournal`, `StaticEvidence.StaticEvidenceJournal.append` — the journal and its file.
* `StaticEvidence.step`, `StaticEvidence.run` — appends, closings and openings with their faults.

## Main results

* `StaticEvidence.appendStaticEvidence_eq_ok_iff` — what an append admits and makes.
* `StaticEvidence.load_eq_ok_iff` — the files that are opened, and the records they hold.

## Implementation notes

The file is the one that the journal made itself: owner-only and regular. One object is in use at a time; a new
one replaces the one before it.

## References

* `src/misscomputer_subnet/static_evidence.py`
-/

namespace Misscomputer

namespace StaticEvidence

open Contract (hex64 text optional document digest readText readInt readOptional memberValues Model)
open StaticProbe (StaticProbeObservation Version)

/-! ## Records -/

/-- `STATIC_EVIDENCE_RECORD_SCHEMA`. -/
def recordSchema : String := "miss.computer/misscomputer-subnet/static-evidence-record"

/-- `MAX_EVIDENCE_JOURNAL_BYTES`. -/
def maxEvidenceJournalBytes : ℕ := 268435456

/-- `MAX_EVIDENCE_RECORD_BYTES`. -/
def maxEvidenceRecordBytes : ℕ := 65536

/-- `MAX_EVIDENCE_RECORDS`. -/
def maxEvidenceRecords : ℤ := 1048576

/-- `StaticEvidenceRecord`. -/
structure StaticEvidenceRecord where
  schemaVersion : Version
  recordIndex : ℤ
  priorRecordDigestSha256 : Option String
  observation : StaticProbeObservation
  recordDigestSha256 : String
deriving DecidableEq

namespace StaticEvidenceRecord

/-- The members the digest covers. -/
def members (r : StaticEvidenceRecord) : List (String × Json) :=
  [("schema", text recordSchema), ("schema_version", .num r.schemaVersion.number),
    ("record_index", .num r.recordIndex),
    ("prior_record_digest_sha256", optional text r.priorRecordDigestSha256),
    ("observation", r.observation.toJson)]

/-- `model_document` of a record. -/
def toJson (r : StaticEvidenceRecord) : Json :=
  document (r.members ++ [("record_digest_sha256", text r.recordDigestSha256)])

/-- The record with its digest. -/
def sealed (r : StaticEvidenceRecord) : StaticEvidenceRecord :=
  { r with recordDigestSha256 := digest (document r.members) }

lemma digest_sealed (r : StaticEvidenceRecord) :
    r.sealed.recordDigestSha256 = digest (document r.sealed.members) := rfl

/-- The checks of the fields and `canonical_record`. -/
def Valid (r : StaticEvidenceRecord) : Prop :=
  (1 ≤ r.recordIndex ∧ r.recordIndex ≤ maxEvidenceRecords) ∧ (∀ d ∈ r.priorRecordDigestSha256, hex64 d) ∧
    r.observation.Valid ∧ hex64 r.recordDigestSha256 ∧ r.schemaVersion = r.observation.schemaVersion ∧
    (r.recordIndex = 1 ↔ r.priorRecordDigestSha256 = none) ∧
    r.recordDigestSha256 = digest (document r.members)

instance (r : StaticEvidenceRecord) : Decidable r.Valid := by
  unfold Valid
  infer_instance

end StaticEvidenceRecord

/-- The members of a record. -/
def recordKeys : List String :=
  ["schema", "schema_version", "record_index", "prior_record_digest_sha256", "observation", "record_digest_sha256"]

/-- A record from the values of its members. -/
def recordOfValues : List Json → Option StaticEvidenceRecord
  | [schema, schemaVersion, recordIndex, prior, observation, recordDigest] => do
    guard (readText schema = some recordSchema)
    return {
      schemaVersion := ← StaticProbe.readVersion schemaVersion
      recordIndex := ← readInt recordIndex
      priorRecordDigestSha256 := ← readOptional readText prior
      observation := ← StaticProbeObservation.ofJson observation
      recordDigestSha256 := ← readText recordDigest }
  | _ => none

namespace StaticEvidenceRecord

/-- A record from its document. -/
def ofJson (j : Json) : Option StaticEvidenceRecord := (memberValues recordKeys [] j).bind recordOfValues

lemma nodup_keys (r : StaticEvidenceRecord) :
    ((r.members ++ [("record_digest_sha256", text r.recordDigestSha256)]).map Prod.fst).Nodup := by
  simp [members]

/-- A valid record is read back from its document. -/
lemma ofJson_toJson {r : StaticEvidenceRecord} (h : r.Valid) : ofJson r.toJson = some r := by
  have hvalues : memberValues recordKeys [] r.toJson = _ :=
    Contract.memberValues_document_exact r.nodup_keys
  have hobservation := StaticProbeObservation.ofJson_toJson h.2.2.1.2.2.1.1
  rw [ofJson, hvalues, Option.bind_some]
  simp [members, recordOfValues, hobservation]

lemma wellKeyed_toJson (r : StaticEvidenceRecord) : r.toJson.WellKeyed := by
  refine Contract.wellKeyed_document r.nodup_keys ?_
  have htext : ∀ s, (text s).WellKeyed := fun _ => trivial
  have hnum : ∀ n, (Json.num n).WellKeyed := fun _ => trivial
  simp [members, htext, hnum, StaticProbeObservation.wellKeyed_optional, StaticProbeObservation.wellKeyed_toJson]

/-- The contract of records. -/
def model : Model StaticEvidenceRecord where
  toJson := toJson
  ofJson := ofJson
  Valid := Valid
  decidable := inferInstance
  ofJson_toJson := fun _ h => ofJson_toJson h
  wellKeyed := fun r _ => r.wellKeyed_toJson

/-- `item.observation.probe_nonce`. -/
def nonce (r : StaticEvidenceRecord) : String := r.observation.probeNonce

end StaticEvidenceRecord

/-- `parse_static_evidence_record`. -/
def parseStaticEvidenceRecord (rendered : List UInt8) : Except String StaticEvidenceRecord :=
  StaticEvidenceRecord.model.parse maxEvidenceRecordBytes rendered

/-! ## The chain -/

/-- The index and the link that a record after `previous` has. -/
def nextIndex (previous : Option StaticEvidenceRecord) : ℤ :=
  match previous with
  | none => 1
  | some p => p.recordIndex + 1

/-- `append_static_evidence`. -/
def appendStaticEvidence (prior : Option StaticEvidenceRecord) (observation : StaticProbeObservation) :
    Except String StaticEvidenceRecord := do
  Except.reject (¬ observation.Valid) "validation_error"
  Except.reject (∃ p ∈ prior, ¬ p.Valid) "validation_error"
  Except.reject (∃ p ∈ prior, p.observation.validatorHotkey ≠ observation.validatorHotkey ∨
    maxEvidenceRecords ≤ p.recordIndex) "static_evidence_append_invalid"
  let record := StaticEvidenceRecord.sealed ⟨observation.schemaVersion, nextIndex prior,
    prior.map StaticEvidenceRecord.recordDigestSha256, observation, ""⟩
  Except.reject (¬ record.Valid) "validation_error"
  return record

/-- What `verify_static_evidence_chain` carries along. -/
structure Chain where
  previous : Option StaticEvidenceRecord
  nonces : List String

/-- One round of `verify_static_evidence_chain`. -/
def Chain.next (s : Chain) (item : StaticEvidenceRecord) : Except String Chain := do
  Except.reject (¬ item.Valid) "validation_error"
  Except.reject (item.recordIndex ≠ nextIndex s.previous ∨
    item.priorRecordDigestSha256 ≠ s.previous.map StaticEvidenceRecord.recordDigestSha256 ∨
    (∃ p ∈ s.previous, item.observation.validatorHotkey ≠ p.observation.validatorHotkey) ∨
    item.nonce ∈ s.nonces) "static_evidence_chain_invalid"
  return ⟨some item, item.nonce :: s.nonces⟩

/-- `verify_static_evidence_chain`. -/
def verifyStaticEvidenceChain (records : List StaticEvidenceRecord) : Except String Unit := do
  let _ ← records.foldlM Chain.next ⟨none, []⟩
  return ()

/-! ## The journal -/

/-- `StaticEvidenceJournal`. -/
structure StaticEvidenceJournal where
  /-- The descriptor is not negative. -/
  isOpen : Bool
  records : List StaticEvidenceRecord
  nonces : List String
  size : ℕ

/-- `_load`, of the whole file. -/
def load (rendered : List UInt8) : Except String (List StaticEvidenceRecord) := do
  Except.reject (¬ Lines.Ended 10 rendered) "static_evidence_journal_invalid"
  let records ← ((Lines.split 10 rendered).mapM fun line =>
    parseStaticEvidenceRecord (line ++ [10])).mapError fun _ => "static_evidence_journal_invalid"
  (verifyStaticEvidenceChain records).mapError fun _ => "static_evidence_journal_invalid"
  return records

/-- `StaticEvidenceJournal.__init__`. The directory is synced with an empty file, which may fail. -/
def openJournal (file : List UInt8) (directorySynced : Bool) : Except String StaticEvidenceJournal := do
  Except.reject (maxEvidenceJournalBytes < file.length) "static_evidence_journal_unsafe"
  let records ← load file
  Except.reject (file = [] ∧ directorySynced = false) "OSError"
  return {
    isOpen := true
    records := records
    nonces := records.map StaticEvidenceRecord.nonce
    size := file.length }

namespace StaticEvidenceJournal

/-- `append`, up to the write: the record and its bytes. -/
def accept (j : StaticEvidenceJournal) (observation : StaticProbeObservation) :
    Except String (StaticEvidenceRecord × List UInt8) := do
  Except.reject (j.isOpen = false) "static_evidence_journal_closed"
  let _ ← StaticProbeObservation.model.modelBytes observation
  let record ← appendStaticEvidence j.records.getLast? observation
  Except.reject (record.nonce ∈ j.nonces) "static_evidence_nonce_reused"
  let rendered ← StaticEvidenceRecord.model.modelBytes record
  Except.reject (maxEvidenceJournalBytes < j.size + rendered.length) "static_evidence_journal_full"
  return (record, rendered)

/-- `close`. -/
def close (j : StaticEvidenceJournal) : StaticEvidenceJournal := { j with isOpen := false }

/-- The bookkeeping of `append`. -/
def extend (j : StaticEvidenceJournal) (record : StaticEvidenceRecord) (written : ℕ) : StaticEvidenceJournal where
  isOpen := j.isOpen
  records := j.records ++ [record]
  nonces := j.nonces ++ [record.nonce]
  size := j.size + written

end StaticEvidenceJournal

/-- What `os.write` does: it fails, or it writes at most so many bytes. -/
inductive Writing
  | fails
  | writes (count : ℕ)

/-- What an append leaves: its result, the journal and the file. -/
structure Appended where
  result : Except String StaticEvidenceRecord
  journal : StaticEvidenceJournal
  file : List UInt8

/-- `append`, with what the write and the sync do. -/
def StaticEvidenceJournal.append (j : StaticEvidenceJournal) (file : List UInt8)
    (observation : StaticProbeObservation) (writing : Writing) (synced : Bool) : Appended :=
  match j.accept observation with
  | .error e => ⟨.error e, j, file⟩
  | .ok (record, rendered) =>
    match writing with
    | .fails => ⟨.error "OSError", j, file⟩
    | .writes count =>
      let written := (rendered.take count).length
      if written ≠ rendered.length then
        ⟨.error "static_evidence_journal_short_write", j.close, file ++ rendered.take count⟩
      else if synced = false then ⟨.error "OSError", j, file ++ rendered.take count⟩
      else ⟨.ok record, j.extend record written, file ++ rendered.take count⟩

/-! ## Runs -/

/-- The file and the object in use, with what has happened to them. -/
structure State where
  file : List UInt8
  journal : Option StaticEvidenceJournal
  /-- What the appends returned. -/
  returned : List StaticEvidenceRecord
  /-- Every append returned a record, or raised with the file as it was. -/
  clean : Bool
  /-- An append on this object raised once bytes had reached the file. -/
  spoiled : Bool

/-- What a caller does, and the faults it meets. -/
inductive Event
  | append (observation : StaticProbeObservation) (writing : Writing) (synced : Bool)
  | close
  | reopen (directorySynced : Bool)

/-- What the object in use makes of an append. -/
def appended (s : State) : Event → Option Appended
  | .append observation writing synced => s.journal.map fun j => j.append s.file observation writing synced
  | _ => none

/-- One event. Without an object there is nothing to append to and nothing to close. -/
def step (s : State) (event : Event) : State :=
  match event with
  | .append _ _ _ =>
    match appended s event with
    | none => s
    | some a =>
      match a.result with
      | .ok record => { s with file := a.file, journal := some a.journal, returned := s.returned ++ [record] }
      | .error _ => { s with
          file := a.file
          journal := some a.journal
          clean := s.clean && decide (a.file = s.file)
          spoiled := s.spoiled || decide (a.file ≠ s.file) }
  | .close => { s with journal := s.journal.map StaticEvidenceJournal.close }
  | .reopen directorySynced =>
    match openJournal s.file directorySynced with
    | .ok j => { s with journal := some j, spoiled := false }
    | .error _ => { s with journal := none, spoiled := false }

/-- Before the journal is opened for the first time. -/
def start : State := ⟨[], none, [], true, false⟩

/-- The state after a list of events. -/
def run (events : List Event) : State := events.foldl step start

/-! ## What an append makes -/

section Chains

variable {records before : List StaticEvidenceRecord} {item r : StaticEvidenceRecord}
  {prior : Option StaticEvidenceRecord} {o : StaticProbeObservation}

/-- The record of an append. -/
def recordAfter (prior : Option StaticEvidenceRecord) (o : StaticProbeObservation) : StaticEvidenceRecord :=
  StaticEvidenceRecord.sealed ⟨o.schemaVersion, nextIndex prior,
    prior.map StaticEvidenceRecord.recordDigestSha256, o, ""⟩

/-- A record after valid ones is valid. -/
lemma recordAfter_valid (ho : o.Valid) (hprior : ∀ p ∈ prior, p.Valid ∧ p.recordIndex < maxEvidenceRecords) :
    (recordAfter prior o).Valid := by
  have hindex : (1 ≤ nextIndex prior ∧ nextIndex prior ≤ maxEvidenceRecords) ∧
      (nextIndex prior = 1 ↔ prior.map StaticEvidenceRecord.recordDigestSha256 = none) := by
    cases prior with
    | none => exact ⟨by decide, iff_of_true rfl rfl⟩
    | some p =>
      obtain ⟨⟨⟨hlow, hhigh⟩, -⟩, hlt⟩ := hprior p rfl
      have hnext : nextIndex (some p) = p.recordIndex + 1 := rfl
      rw [hnext]
      exact ⟨by omega, iff_of_false (by omega) nofun⟩
  refine ⟨hindex.1, ?_, ho, Contract.hex64_digest _, rfl, hindex.2, StaticEvidenceRecord.digest_sealed _⟩
  intro d hd
  obtain ⟨p, hp, rfl⟩ := Option.mem_map.mp hd
  obtain ⟨⟨-, -, -, hhex, -⟩, -⟩ := hprior p hp
  exact hhex

/-- **What an append admits**: a valid observation after a valid record of the same validator that is not the
last one there can be. -/
theorem appendStaticEvidence_eq_ok_iff : appendStaticEvidence prior o = .ok r ↔
    o.Valid ∧ (∀ p ∈ prior, p.Valid ∧ p.recordIndex < maxEvidenceRecords ∧
      p.observation.validatorHotkey = o.validatorHotkey) ∧ r = recordAfter prior o := by
  constructor
  · intro h
    simp only [appendStaticEvidence, Except.bind_eq_ok, Except.reject_eq_ok, exists_const, not_not, not_exists,
      not_and, not_or, not_le, pure, Except.pure, Except.ok.injEq] at h
    obtain ⟨ho, hvalid, hprior, -, rfl⟩ := h
    exact ⟨ho, fun p hp => ⟨hvalid p hp, (hprior p hp).2, (hprior p hp).1⟩, rfl⟩
  · rintro ⟨ho, hprior, rfl⟩
    have hrecord := recordAfter_valid ho fun p hp => ⟨(hprior p hp).1, (hprior p hp).2.1⟩
    simp only [appendStaticEvidence, Except.bind_eq_ok, Except.reject_eq_ok, exists_const, not_not, not_exists,
      not_and, not_or, not_le, pure, Except.pure, Except.ok.injEq]
    exact ⟨ho, fun p hp => (hprior p hp).1, fun p hp => ⟨(hprior p hp).2.2, (hprior p hp).2.1⟩, hrecord, rfl⟩

/-! ## Chains -/

/-- A record continues a journal. -/
structure Follows (before : List StaticEvidenceRecord) (item : StaticEvidenceRecord) : Prop where
  valid : item.Valid
  index : item.recordIndex = nextIndex before.getLast?
  link : item.priorRecordDigestSha256 = before.getLast?.map StaticEvidenceRecord.recordDigestSha256
  hotkey : ∀ p ∈ before.getLast?, item.observation.validatorHotkey = p.observation.validatorHotkey
  nonce : item.nonce ∉ before.map StaticEvidenceRecord.nonce

/-- Every record continues those before it. -/
def Chained (records : List StaticEvidenceRecord) : Prop :=
  ∀ before item, before ++ [item] <+: records → Follows before item

lemma chained_nil : Chained [] := by
  intro before item h
  exact absurd (List.prefix_nil.mp h) (by simp)

lemma chained_concat : Chained (records ++ [r]) ↔ Chained records ∧ Follows records r := by
  constructor
  · intro h
    exact ⟨fun before item hpre => h before item (hpre.trans (List.prefix_append _ _)), h records r (List.prefix_refl _)⟩
  · rintro ⟨h, hlast⟩ before item hpre
    rcases List.prefix_concat_iff.mp hpre with heq | hpre
    · obtain ⟨rfl, hitem⟩ := List.append_inj' heq rfl
      rw [List.singleton_inj.mp hitem]
      exact hlast
    · exact h before item hpre

lemma Chained.valid (h : Chained records) : ∀ r ∈ records, r.Valid := by
  intro r hr
  obtain ⟨before, after, rfl⟩ := List.append_of_mem hr
  have hpre : before ++ [r] <+: before ++ r :: after := ⟨after, by simp⟩
  exact (h before r hpre).valid

/-- **The records are numbered from one.** -/
lemma Chained.index (h : Chained records) {i : ℕ} (hi : records[i]? = some r) : r.recordIndex = i + 1 := by
  induction records using List.reverseRecOn generalizing i r with
  | nil => cases hi
  | append_singleton records last ih =>
    obtain ⟨hrecords, hlast⟩ := chained_concat.mp h
    by_cases hlt : i < records.length
    · rw [List.getElem?_append_left hlt] at hi
      exact ih hrecords hi
    · rw [List.getElem?_append_right (not_lt.mp hlt)] at hi
      have hlen : i - records.length = 0 := by
        have := (List.getElem?_eq_some_iff.mp hi).1
        rw [List.length_singleton] at this
        omega
      rw [hlen, List.getElem?_cons_zero] at hi
      obtain rfl := Option.some.inj hi
      rw [hlast.index]
      cases records using List.reverseRecOn with
      | nil =>
        have hzero : i = 0 := hlen
        rw [hzero]
        rfl
      | append_singleton front p =>
        rw [List.getLast?_concat]
        have hp := ih hrecords (i := front.length) (r := p) (by simp)
        rw [List.length_append, List.length_singleton] at hlen hlt
        have hnext : nextIndex (some p) = p.recordIndex + 1 := rfl
        rw [hnext, hp]
        omega

/-- What the verification carries along after some records. -/
def Chain.after (records : List StaticEvidenceRecord) : Chain :=
  ⟨records.getLast?, (records.map StaticEvidenceRecord.nonce).reverse⟩

/-- **The chain is verified** exactly where every record continues those before it. -/
theorem verifyStaticEvidenceChain_eq_ok_iff : verifyStaticEvidenceChain records = .ok () ↔ Chained records := by
  have hstart : (⟨none, []⟩ : Chain) = Chain.after [] := rfl
  have hloop : ∀ s, records.foldlM Chain.next ⟨none, []⟩ = .ok s ↔ Chained records ∧ s = Chain.after records := by
    intro s
    rw [hstart]
    refine Except.foldlM_eq_ok chained_nil (fun l a h => (chained_concat.mp h).1) ?_
    intro l a s hl
    simp only [Chain.after, Chain.next, Except.bind_eq_ok, Except.reject_eq_ok, exists_const, not_not, not_or, not_exists, not_and,
      ne_eq, pure, Except.pure, Except.ok.injEq, List.mem_reverse, List.getLast?_concat, List.map_append,
      List.reverse_append, List.map_cons, List.map_nil, List.reverse_cons, List.reverse_nil, List.nil_append,
      List.cons_append]
    rw [chained_concat]
    constructor
    · rintro ⟨hvalid, ⟨hindex, hlink, hhotkey, hnonce⟩, rfl⟩
      exact ⟨⟨hl, hvalid, hindex, hlink, hhotkey, hnonce⟩, rfl⟩
    · rintro ⟨⟨-, hvalid, hindex, hlink, hhotkey, hnonce⟩, rfl⟩
      exact ⟨hvalid, ⟨hindex, hlink, hhotkey, hnonce⟩, rfl⟩
  simp only [verifyStaticEvidenceChain, Except.bind_eq_ok, hloop]
  constructor
  · rintro ⟨s, ⟨h, -⟩, -⟩
    exact h
  · intro h
    exact ⟨_, ⟨h, rfl⟩, rfl⟩

end Chains

/-! ## What is opened -/

/-- The bytes of a record in the file. -/
def recordBytes (r : StaticEvidenceRecord) : List UInt8 := StaticEvidenceRecord.model.bytes r

lemma parseStaticEvidenceRecord_eq_ok_iff {b : List UInt8} {r : StaticEvidenceRecord} :
    parseStaticEvidenceRecord b = .ok r ↔ r.Valid ∧ b = recordBytes r ∧ b.length ≤ maxEvidenceRecordBytes :=
  Model.parse_eq_ok_iff _

/-- The file of some records. -/
def fileOf (records : List StaticEvidenceRecord) : List UInt8 := records.flatMap recordBytes

lemma fileOf_append (records records' : List StaticEvidenceRecord) :
    fileOf (records ++ records') = fileOf records ++ fileOf records' := List.flatMap_append

lemma fileOf_singleton (r : StaticEvidenceRecord) : fileOf [r] = recordBytes r := List.flatMap_singleton _ _

lemma fileOf_eq_join (records : List StaticEvidenceRecord) :
    fileOf records = Lines.join 10 (records.map fun r => Contract.canonicalJson r.toJson) := by
  rw [fileOf, Lines.join, List.flatMap_map]
  rfl

section Opening

variable {b : List UInt8} {records : List StaticEvidenceRecord}

/-- Each line is the canonical bytes of its record, but for the newline. -/
lemma file_of_lines {lines : List (List UInt8)}
    (h : List.Forall₂ (fun line r => parseStaticEvidenceRecord (line ++ [10]) = .ok r) lines records) :
    Lines.join 10 lines = fileOf records ∧ ∀ r ∈ records, (recordBytes r).length ≤ maxEvidenceRecordBytes := by
  induction h with
  | nil => exact ⟨rfl, fun r hr => absurd hr List.not_mem_nil⟩
  | @cons line r lines rs h _ ih =>
    obtain ⟨-, hbytes, hlength⟩ := parseStaticEvidenceRecord_eq_ok_iff.mp h
    have hcons : fileOf (r :: rs) = recordBytes r ++ fileOf rs := List.flatMap_cons
    rw [hbytes] at hlength
    refine ⟨?_, List.forall_mem_cons.mpr ⟨hlength, ih.2⟩⟩
    rw [hcons, ← hbytes, ← ih.1, Lines.join_cons, List.append_assoc]
    rfl

/-- **What is loaded**: the canonical bytes of a chain, each record within its limit. -/
theorem load_eq_ok_iff : load b = .ok records ↔
    b = fileOf records ∧ (∀ r ∈ records, (recordBytes r).length ≤ maxEvidenceRecordBytes) ∧ Chained records := by
  simp only [load, Except.bind_eq_ok, Except.reject_eq_ok, exists_const, not_not, Except.mapError_eq_ok,
    Contract.mapM_eq_ok_iff, pure, Except.pure, Except.ok.injEq]
  constructor
  · rintro ⟨hended, records', hparse, u, hchain, rfl⟩
    have hchained := verifyStaticEvidenceChain_eq_ok_iff.mp hchain
    obtain ⟨hfile, hlength⟩ := file_of_lines hparse
    rw [Lines.join_split hended] at hfile
    exact ⟨hfile, hlength, hchained⟩
  · rintro ⟨rfl, hlength, hchained⟩
    have hsplit : Lines.split 10 (fileOf records) = records.map fun r => Contract.canonicalJson r.toJson := by
      rw [fileOf_eq_join]
      refine Lines.split_join fun line hline => ?_
      obtain ⟨r, -, rfl⟩ := List.mem_map.mp hline
      exact Contract.newline_notMem _
    refine ⟨fileOf_eq_join records ▸ Lines.ended_join _, records, ?_,
      (), verifyStaticEvidenceChain_eq_ok_iff.mpr hchained, rfl⟩
    rw [hsplit, List.forall₂_map_left_iff, List.forall₂_same]
    intro r hr
    exact parseStaticEvidenceRecord_eq_ok_iff.mpr ⟨hchained.valid r hr, rfl, hlength r hr⟩

/-- The journal over some records. -/
def journalOf (records : List StaticEvidenceRecord) (size : ℕ) : StaticEvidenceJournal :=
  ⟨true, records, records.map StaticEvidenceRecord.nonce, size⟩

/-- **What is opened.** -/
theorem openJournal_eq_ok_iff {directorySynced : Bool} {j : StaticEvidenceJournal} :
    openJournal b directorySynced = .ok j ↔ b.length ≤ maxEvidenceJournalBytes ∧
      ∃ records, load b = .ok records ∧ (b = [] → directorySynced = true) ∧ j = journalOf records b.length := by
  simp only [openJournal, Except.bind_eq_ok, Except.reject_eq_ok, exists_const, not_lt, not_and, Bool.not_eq_false,
    pure, Except.pure, Except.ok.injEq]
  refine and_congr_right fun _ => exists_congr fun records => and_congr_right fun _ => and_congr_right fun _ => ?_
  rw [eq_comm]
  rfl

end Opening

section Admission

variable {j : StaticEvidenceJournal} {o : StaticProbeObservation} {r : StaticEvidenceRecord} {b : List UInt8}

/-- **What reaches the file.** -/
theorem accept_eq_ok_iff : j.accept o = .ok (r, b) ↔ j.isOpen = true ∧
    appendStaticEvidence j.records.getLast? o = .ok r ∧ r.nonce ∉ j.nonces ∧ b = recordBytes r ∧
      j.size + b.length ≤ maxEvidenceJournalBytes := by
  simp only [StaticEvidenceJournal.accept, Except.bind_eq_ok, Except.reject_eq_ok, exists_const, Bool.not_eq_false,
    Model.modelBytes_eq_ok_iff, not_lt, pure, Except.pure, Except.ok.injEq, Prod.mk.injEq]
  constructor
  · rintro ⟨hopen, -, -, r', happend, hnonce, b', ⟨-, rfl⟩, hsize, rfl, rfl⟩
    exact ⟨hopen, happend, hnonce, rfl, hsize⟩
  · rintro ⟨hopen, happend, hnonce, rfl, hsize⟩
    obtain ⟨ho, hprior, hr⟩ := appendStaticEvidence_eq_ok_iff.mp happend
    have hvalid : r.Valid := by
      rw [hr]
      exact recordAfter_valid ho fun p hp => ⟨(hprior p hp).1, (hprior p hp).2.1⟩
    exact ⟨hopen, _, ⟨ho, rfl⟩, r, happend, hnonce, _, ⟨hvalid, rfl⟩, hsize, rfl, rfl⟩

/-- A record that is admitted continues the journal. -/
lemma follows_of_append {records : List StaticEvidenceRecord}
    (happend : appendStaticEvidence records.getLast? o = .ok r)
    (hnonce : r.nonce ∉ records.map StaticEvidenceRecord.nonce) : Follows records r := by
  obtain ⟨ho, hprior, rfl⟩ := appendStaticEvidence_eq_ok_iff.mp happend
  have hvalid := recordAfter_valid ho fun p hp => ⟨(hprior p hp).1, (hprior p hp).2.1⟩
  exact ⟨hvalid, rfl, rfl, fun p hp => ((hprior p hp).2.2).symm, hnonce⟩

end Admission

end StaticEvidence

end Misscomputer
