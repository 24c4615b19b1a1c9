import Misscomputer.Static.RecordSize

set_option relaxedAutoImplicit false
set_option autoImplicit false

/-!
# Opening the journal again

Which journals can be opened again on what they acknowledged. An append checks the size of the journal but not
that of the record, which the next opening does; and it leaves the object open where the sync fails, with the
record in the file and not in the object, so that the next append numbers its record the same.

## Main definitions

* `StaticEvidence.AlwaysReopens` — at every point of a run the journal opens on what it acknowledged.
* `StaticEvidence.Safe` — the event is no append that returns on an object which an earlier one has spoiled, or with
  a record that no opening admits.
* `StaticEvidence.Sound` — the invariant of the file and the object in use.

## Main results

* `StaticEvidence.Sound.step` — every safe event keeps the invariant.
* `StaticEvidence.alwaysReopens_iff` — the runs in which the journal always opens again are those of safe events.

## References

* `src/misscomputer_subnet/static_evidence.py`
-/

namespace Misscomputer

namespace StaticEvidence

open Contract (Model)
open StaticProbe (StaticProbeObservation)

/-! ## What a run promises -/

/-- If every append returned or left the file as it was, the journal opens with exactly what they returned. -/
def Reopens (s : State) : Prop :=
  s.clean = true → ∃ j, openJournal s.file true = .ok j ∧ j.records = s.returned

/-- The append returns a record. -/
def Returns (s : State) (event : Event) : Prop := ∃ a ∈ appended s event, ∃ r, a.result = .ok r

/-- After an append that raised once bytes had reached the file, none on the same object returns in a way that
makes the next opening fail. -/
def Harmless (s : State) (event : Event) : Prop :=
  s.spoiled = true → Returns s event → ∃ j, openJournal (step s event).file true = .ok j

/-- **The journal can always be opened again**, at every point of the run. -/
def AlwaysReopens (events : List Event) : Prop :=
  (∀ before, before <+: events → Reopens (run before)) ∧
    ∀ before event, before ++ [event] <+: events → Harmless (run before) event

/-- The write takes all of the bytes. -/
def Writing.Completes (rendered : List UInt8) : Writing → Prop
  | fails => False
  | writes count => rendered.length ≤ count

/-- **The event is safe**: an append whose record is admitted, written in full and synced is made on an object of
which no append has raised with bytes in the file; and, as long as no append of the run has, its record is within the
limit of a record. -/
def Safe (s : State) : Event → Prop
  | .append observation writing synced =>
    ∀ j r rendered, s.journal = some j → j.accept observation = .ok (r, rendered) → writing.Completes rendered →
      synced = true → s.spoiled = false ∧ (s.clean = true → rendered.length ≤ maxEvidenceRecordBytes)
  | _ => True

/-- Every event of the run is safe. -/
def AllSafe (events : List Event) : Prop :=
  ∀ before event, before ++ [event] <+: events → Safe (run before) event

/-! ## What an append can do -/

/-- The outcomes of an append. -/
inductive Outcome (j : StaticEvidenceJournal) (file : List UInt8) (o : StaticProbeObservation) : Appended → Prop
  | refused (e : String) : Outcome j file o ⟨.error e, j, file⟩
  | short (e : String) (part : List UInt8) : Outcome j file o ⟨.error e, j.close, file ++ part⟩
  | unsynced (e : String) (r : StaticEvidenceRecord) (rendered : List UInt8)
      (haccept : j.accept o = .ok (r, rendered)) : Outcome j file o ⟨.error e, j, file ++ rendered⟩
  | returned (r : StaticEvidenceRecord) (rendered : List UInt8) (haccept : j.accept o = .ok (r, rendered)) :
      Outcome j file o ⟨.ok r, j.extend r rendered.length, file ++ rendered⟩

section Appends

variable {j : StaticEvidenceJournal} {file : List UInt8} {o : StaticProbeObservation} {writing : Writing}
  {synced : Bool} {r : StaticEvidenceRecord} {rendered : List UInt8}

/-- An append that writes all of its record and syncs it returns. -/
lemma append_of_completes (haccept : j.accept o = .ok (r, rendered)) (hwriting : writing.Completes rendered)
    (hsynced : synced = true) : j.append file o writing synced =
      ⟨.ok r, j.extend r rendered.length, file ++ rendered⟩ := by
  cases writing with
  | fails => exact hwriting.elim
  | writes count =>
    have htake : rendered.take count = rendered := List.take_of_length_le hwriting
    rw [StaticEvidenceJournal.append, haccept]
    dsimp only
    rw [htake, if_neg (not_not.mpr rfl), hsynced, if_neg Bool.noConfusion]

/-- An append whose sync fails leaves its record in the file. -/
lemma append_of_unsynced (haccept : j.accept o = .ok (r, rendered)) (hwriting : writing.Completes rendered) :
    j.append file o writing false = ⟨.error "OSError", j, file ++ rendered⟩ := by
  cases writing with
  | fails => exact hwriting.elim
  | writes count =>
    have htake : rendered.take count = rendered := List.take_of_length_le hwriting
    rw [StaticEvidenceJournal.append, haccept]
    dsimp only
    rw [htake, if_neg (not_not.mpr rfl), if_pos rfl]

/-- **The outcomes of an append are these.** -/
lemma outcome_append : Outcome j file o (j.append file o writing synced) := by
  rw [StaticEvidenceJournal.append]
  cases haccept : j.accept o with
  | error e => exact .refused e
  | ok admitted =>
    obtain ⟨r, rendered⟩ := admitted
    cases writing with
    | fails => exact .refused _
    | writes count =>
      dsimp only
      by_cases hfull : (rendered.take count).length = rendered.length
      · have htake : rendered.take count = rendered := by
          rw [List.length_take] at hfull
          exact List.take_of_length_le (by omega)
        rw [if_neg (not_not.mpr hfull), htake]
        by_cases hsynced : synced = false
        · rw [if_pos hsynced]
          exact .unsynced _ r rendered haccept
        · rw [if_neg hsynced]
          exact .returned r rendered haccept
      · rw [if_pos hfull]
        exact .short _ _

/-- An append that returns was admitted, written in full and synced. -/
lemma completes_of_returns (h : (j.append file o writing synced).result = .ok r) :
    ∃ rendered, j.accept o = .ok (r, rendered) ∧ writing.Completes rendered ∧ synced = true := by
  rw [StaticEvidenceJournal.append] at h
  cases haccept : j.accept o with
  | error e =>
    rw [haccept] at h
    cases h
  | ok admitted =>
    obtain ⟨r', rendered⟩ := admitted
    rw [haccept] at h
    cases writing with
    | fails => cases h
    | writes count =>
      dsimp only at h
      split at h
      · cases h
      · rename_i hfull
        split at h
        · cases h
        · rename_i hsynced
          obtain rfl := Except.ok.inj h
          rw [not_not, List.length_take] at hfull
          have hcount : rendered.length ≤ count := by omega
          exact ⟨rendered, rfl, hcount, by simpa using hsynced⟩

end Appends

/-! ## Files and their records -/

/-- A file holds one list of valid records at most. -/
lemma fileOf_inj {records records' : List StaticEvidenceRecord} (h : ∀ r ∈ records, r.Valid)
    (h' : ∀ r ∈ records', r.Valid) (hfile : fileOf records = fileOf records') : records = records' := by
  have hsplit : ∀ rs : List StaticEvidenceRecord,
      Lines.split 10 (fileOf rs) = rs.map fun r => Contract.canonicalJson r.toJson := by
    intro rs
    rw [fileOf_eq_join]
    refine Lines.split_join fun line hline => ?_
    obtain ⟨r, -, rfl⟩ := List.mem_map.mp hline
    exact Contract.newline_notMem _
  have hlines := (hsplit records).symm.trans ((congrArg _ hfile).trans (hsplit records'))
  clear hfile hsplit
  induction records generalizing records' with
  | nil => exact (List.map_eq_nil_iff.mp hlines.symm).symm
  | cons r records ih =>
    cases records' with
    | nil => cases hlines
    | cons r' records' =>
      rw [List.forall_mem_cons] at h h'
      obtain ⟨hline, hrest⟩ := List.cons.inj hlines
      have hbytes : StaticEvidenceRecord.model.bytes r = StaticEvidenceRecord.model.bytes r' :=
        congrArg (· ++ [10]) hline
      rw [Model.bytes_inj _ h.1 h'.1 hbytes, ih h.2 h'.2 hrest]

/-! ## The invariant -/

/-- What an object in use knows of the file, and what was written after that and not synced. -/
structure InStep (s : State) (j : StaticEvidenceJournal) (extra : List StaticEvidenceRecord) : Prop where
  file : s.file = fileOf (j.records ++ extra)
  nonces : j.nonces = j.records.map StaticEvidenceRecord.nonce
  size : j.size = (fileOf j.records).length
  chained : Chained j.records
  valid : ∀ r ∈ extra, r.Valid
  numbered : ∀ r ∈ extra, r.recordIndex = nextIndex j.records.getLast?
  spoiled : s.spoiled = true ↔ extra ≠ []
  clean : s.clean = true → extra = [] ∧ j.records = s.returned

/-- **The invariant.** -/
structure Sound (s : State) : Prop where
  inStep : ∀ j, s.journal = some j → j.isOpen = true → ∃ extra, InStep s j extra
  stored : s.clean = true → s.file = fileOf s.returned ∧ Chained s.returned ∧
    (∀ r ∈ s.returned, (recordBytes r).length ≤ maxEvidenceRecordBytes) ∧ s.file.length ≤ maxEvidenceJournalBytes

lemma sound_start : Sound start where
  inStep := nofun
  stored := fun _ => ⟨rfl, chained_nil, List.forall_mem_nil _, Nat.zero_le _⟩

/-- A sound journal opens again. -/
lemma Sound.reopens {s : State} (h : Sound s) : Reopens s := by
  intro hclean
  obtain ⟨hfile, hchained, hlength, hsize⟩ := h.stored hclean
  have hload := load_eq_ok_iff.mpr ⟨hfile, hlength, hchained⟩
  exact ⟨_, openJournal_eq_ok_iff.mpr ⟨hsize, s.returned, hload, fun _ => rfl, rfl⟩, rfl⟩

/-- An opening is in step with the file. -/
lemma Sound.reopen {s : State} (h : Sound s) {directorySynced : Bool} {j : StaticEvidenceJournal}
    (hopen : openJournal s.file directorySynced = .ok j) :
    Sound { s with journal := some j, spoiled := false } := by
  obtain ⟨hsize, records, hload, -, rfl⟩ := openJournal_eq_ok_iff.mp hopen
  obtain ⟨hfile, hlength, hchained⟩ := load_eq_ok_iff.mp hload
  refine ⟨?_, h.stored⟩
  rintro j hj -
  obtain rfl := Option.some.inj hj
  refine ⟨[], ⟨?_, rfl, ?_, hchained, List.forall_mem_nil _, List.forall_mem_nil _,
    iff_of_false Bool.false_ne_true (not_not.mpr rfl), ?_⟩⟩
  · rw [List.append_nil]
    exact hfile
  · exact congrArg _ hfile
  · intro hclean
    obtain ⟨hstored, hreturned, -⟩ := h.stored hclean
    exact ⟨rfl, fileOf_inj hchained.valid hreturned.valid (hfile.symm.trans hstored)⟩

section Steps

variable {s : State} {j : StaticEvidenceJournal} {o : StaticProbeObservation} {r : StaticEvidenceRecord}
  {rendered : List UInt8} {extra : List StaticEvidenceRecord}

lemma recordBytes_ne_nil (r : StaticEvidenceRecord) : recordBytes r ≠ [] := by
  rw [recordBytes, Model.bytes]
  exact List.append_ne_nil_of_right_ne_nil _ (List.cons_ne_nil _ _)

/-- What is admitted to an object in step continues its records and is numbered next. -/
lemma InStep.admitted (h : InStep s j extra) (haccept : j.accept o = .ok (r, rendered)) :
    Follows j.records r ∧ r.recordIndex = nextIndex j.records.getLast? ∧ rendered = recordBytes r ∧
      (fileOf j.records).length + rendered.length ≤ maxEvidenceJournalBytes := by
  obtain ⟨-, happend, hnonce, hrendered, hsize⟩ := accept_eq_ok_iff.mp haccept
  rw [h.nonces] at hnonce
  rw [h.size] at hsize
  have hfollows := follows_of_append happend hnonce
  exact ⟨hfollows, hfollows.index, hrendered, hsize⟩

/-- An append that returns, of a record within its limit, keeps the invariant. -/
lemma Sound.returned (hs : Sound s) (hj : s.journal = some j) (haccept : j.accept o = .ok (r, rendered))
    (hspoiled : s.spoiled = false) (hlimit : s.clean = true → rendered.length ≤ maxEvidenceRecordBytes) :
    Sound { s with
      file := s.file ++ rendered
      journal := some (j.extend r rendered.length)
      returned := s.returned ++ [r] } := by
  obtain ⟨extra, h⟩ := hs.inStep j hj (accept_eq_ok_iff.mp haccept).1
  obtain ⟨hfollows, -, rfl, hsize⟩ := h.admitted haccept
  obtain rfl : extra = [] := by
    by_contra hne
    rw [h.spoiled.mpr hne] at hspoiled
    cases hspoiled
  have hfile : s.file = fileOf j.records := by
    have hfile := h.file
    rw [List.append_nil] at hfile
    exact hfile
  have hnext : s.file ++ recordBytes r = fileOf (j.records ++ [r]) := by
    rw [hfile, fileOf_append, fileOf_singleton]
  refine ⟨?_, fun hclean => ?_⟩
  · rintro j' hj' -
    obtain rfl := Option.some.inj hj'
    refine ⟨[], ⟨?_, ?_, ?_, chained_concat.mpr ⟨h.chained, hfollows⟩, List.forall_mem_nil _, List.forall_mem_nil _,
      ?_, fun hclean => ⟨rfl, ?_⟩⟩⟩
    · rw [List.append_nil]
      exact hnext
    · rw [StaticEvidenceJournal.extend, h.nonces, List.map_append]
      rfl
    · rw [StaticEvidenceJournal.extend, h.size, fileOf_append, fileOf_singleton, List.length_append]
    · exact iff_of_false (by simp [hspoiled]) (not_not.mpr rfl)
    · rw [StaticEvidenceJournal.extend, (h.clean hclean).2]
  · obtain ⟨-, hreturned⟩ := h.clean hclean
    obtain ⟨-, hchained, hlengths, -⟩ := hs.stored hclean
    rw [hreturned] at hnext hfollows
    refine ⟨hnext, chained_concat.mpr ⟨hchained, hfollows⟩, ?_, ?_⟩
    · rw [List.forall_mem_append, List.forall_mem_singleton]
      exact ⟨hlengths, hlimit hclean⟩
    · rw [List.length_append, hfile]
      exact hsize

/-- An append whose sync fails leaves its record in the file only. -/
lemma Sound.unsynced (hs : Sound s) (hj : s.journal = some j) (haccept : j.accept o = .ok (r, rendered)) :
    Sound { s with
      file := s.file ++ rendered
      journal := some j
      clean := s.clean && decide (s.file ++ rendered = s.file)
      spoiled := s.spoiled || decide (s.file ++ rendered ≠ s.file) } := by
  obtain ⟨extra, h⟩ := hs.inStep j hj (accept_eq_ok_iff.mp haccept).1
  obtain ⟨hfollows, hindex, rfl, -⟩ := h.admitted haccept
  have hne : ¬ s.file ++ recordBytes r = s.file := fun heq =>
    recordBytes_ne_nil r (List.append_right_eq_self.mp heq)
  have hunclean : (s.clean && decide (s.file ++ recordBytes r = s.file)) ≠ true := by simp [hne]
  refine ⟨?_, fun hclean => absurd hclean hunclean⟩
  rintro j' hj' -
  obtain rfl := Option.some.inj hj'
  refine ⟨extra ++ [r], ⟨?_, h.nonces, h.size, h.chained, ?_, ?_, ?_, fun hclean => absurd hclean hunclean⟩⟩
  · rw [← List.append_assoc, fileOf_append, fileOf_singleton, ← h.file]
  · exact List.forall_mem_append.mpr ⟨h.valid, List.forall_mem_singleton.mpr hfollows.valid⟩
  · exact List.forall_mem_append.mpr ⟨h.numbered, List.forall_mem_singleton.mpr hindex⟩
  · exact iff_of_true (by simp [hne]) (by simp)

/-- An append that raises with the file as it was changes nothing, but that it may close the object. -/
lemma Sound.raised (hs : Sound s) {j' : StaticEvidenceJournal} (hj : s.journal = some j) {part : List UInt8}
    (hcases : (j' = j ∧ part = []) ∨ j'.isOpen = false) :
    Sound { s with
      file := s.file ++ part
      journal := some j'
      clean := s.clean && decide (s.file ++ part = s.file)
      spoiled := s.spoiled || decide (s.file ++ part ≠ s.file) } := by
  refine ⟨?_, ?_⟩
  · intro j'' hj'' hopen
    obtain rfl := Option.some.inj hj''
    rcases hcases with ⟨rfl, rfl⟩ | hclosed
    · obtain ⟨extra, h⟩ := hs.inStep j' hj hopen
      simp only [List.append_nil, decide_true, Bool.and_true, ne_eq, not_true_eq_false, decide_false, Bool.or_false]
      exact ⟨extra, h.file, h.nonces, h.size, h.chained, h.valid, h.numbered, h.spoiled, h.clean⟩
    · rw [hclosed] at hopen
      cases hopen
  · intro hclean
    rw [Bool.and_eq_true, decide_eq_true_iff] at hclean
    obtain ⟨hclean, hsame⟩ := hclean
    obtain ⟨hfile, hchained, hlengths, hsize⟩ := hs.stored hclean
    dsimp only
    rw [hsame]
    exact ⟨hfile, hchained, hlengths, hsize⟩

end Steps

/-- **Every safe event keeps the invariant.** -/
theorem Sound.step {s : State} (hs : Sound s) {event : Event} (hsafe : Safe s event) : Sound (step s event) := by
  cases event with
  | append o writing synced =>
    rw [StaticEvidence.step, appended]
    cases hj : s.journal with
    | none => exact hs
    | some j =>
      dsimp only [Option.map_some]
      have hreturned : ∀ r, (j.append s.file o writing synced).result = .ok r → _ := fun r hr =>
        completes_of_returns hr
      have houtcome : Outcome j s.file o (j.append s.file o writing synced) := outcome_append
      generalize j.append s.file o writing synced = a at hreturned houtcome ⊢
      cases houtcome with
      | refused e =>
        have h := @Sound.raised _ _ hs j hj [] (Or.inl ⟨rfl, rfl⟩)
        rw [List.append_nil] at h
        exact h
      | short e part => exact hs.raised hj (Or.inr rfl)
      | unsynced e r rendered haccept => exact hs.unsynced hj haccept
      | returned r rendered haccept =>
        obtain ⟨rendered', haccept', hwriting, hsynced⟩ := hreturned r rfl
        rw [haccept] at haccept'
        obtain ⟨-, rfl⟩ := Prod.mk.inj (Except.ok.inj haccept')
        obtain ⟨hspoiled, hlimit⟩ := hsafe j r rendered hj haccept hwriting hsynced
        exact hs.returned hj haccept hspoiled hlimit
  | close =>
    refine ⟨?_, hs.stored⟩
    intro j hj hopen
    obtain ⟨j', -, rfl⟩ := Option.map_eq_some_iff.mp hj
    cases hopen
  | reopen directorySynced =>
    rw [StaticEvidence.step]
    cases hopen : openJournal s.file directorySynced with
    | ok j => exact hs.reopen hopen
    | error e => exact ⟨nofun, hs.stored⟩

/-! ## Exactly which runs -/

section Runs

variable {s : State} {event : Event}

/-- A safe event is harmless: if it returns, no append on the object has raised with bytes in the file. -/
lemma harmless_of_safe (hsafe : Safe s event) : Harmless s event := by
  intro hspoiled hreturns
  obtain ⟨a, ha, r, hr⟩ := hreturns
  cases event with
  | append o writing synced =>
    obtain ⟨j, hj, rfl⟩ := Option.map_eq_some_iff.mp ha
    obtain ⟨rendered, haccept, hwriting, hsynced⟩ := completes_of_returns hr
    obtain ⟨hclean, -⟩ := hsafe j r rendered hj haccept hwriting hsynced
    rw [hspoiled] at hclean
    cases hclean
  | close => cases ha
  | reopen directorySynced => cases ha

/-- **An event that is not safe breaks the promise**: the journal opens no more, though the append returned.

**Proof sketch.** On a spoiled object the new record has the number of the first one that was not synced, while the
chain numbers the records of the file from one. A record beyond its limit is refused by every opening. -/
lemma safe_of_promise (hs : Sound s) (hreopens : Reopens (step s event)) (hharmless : Harmless s event) :
    Safe s event := by
  cases event with
  | close => trivial
  | reopen directorySynced => trivial
  | append o writing synced =>
    intro j r rendered hj haccept hwriting hsynced
    obtain ⟨extra, h⟩ := hs.inStep j hj (accept_eq_ok_iff.mp haccept).1
    obtain ⟨hfollows, hindex, rfl, -⟩ := h.admitted haccept
    have happend := @append_of_completes _ s.file _ _ _ _ _ haccept hwriting hsynced
    have happended : appended s (.append o writing synced) =
        some ⟨.ok r, j.extend r (recordBytes r).length, s.file ++ recordBytes r⟩ := by
      rw [appended, hj, Option.map_some, happend]
    have hstep : step s (.append o writing synced) = { s with
        file := s.file ++ recordBytes r
        journal := some (j.extend r (recordBytes r).length)
        returned := s.returned ++ [r] } := by
      rw [StaticEvidence.step, happended]
    refine ⟨?_, fun hclean => ?_⟩
    · by_contra hspoiled
      rw [Bool.not_eq_false] at hspoiled
      obtain ⟨j', hopen⟩ := hharmless hspoiled ⟨_, happended, r, rfl⟩
      rw [hstep] at hopen
      obtain ⟨-, records, hload, -, -⟩ := openJournal_eq_ok_iff.mp hopen
      obtain ⟨hfile, -, hchained⟩ := load_eq_ok_iff.mp hload
      -- The file holds the synced records, the others, and the new one.
      have hall : fileOf records = fileOf (j.records ++ extra ++ [r]) := by
        rw [← hfile, fileOf_append, fileOf_singleton, ← h.file]
      have hvalid : ∀ r' ∈ j.records ++ extra ++ [r], r'.Valid :=
        List.forall_mem_append.mpr ⟨List.forall_mem_append.mpr ⟨h.chained.valid, h.valid⟩,
          List.forall_mem_singleton.mpr hfollows.valid⟩
      obtain rfl := fileOf_inj hchained.valid hvalid hall
      obtain ⟨first, rest, hextra⟩ := List.exists_cons_of_ne_nil (h.spoiled.mp hspoiled)
      have hfirst := hchained.index (i := j.records.length) (r := first) (by simp [hextra])
      have hlast := hchained.index (i := (j.records ++ extra).length) (r := r) (by simp)
      rw [h.numbered first (by simp [hextra])] at hfirst
      rw [hindex, hfirst, hextra, List.length_append, List.length_cons] at hlast
      omega
    · obtain ⟨j', hopen, hrecords⟩ := hreopens (by rw [hstep]; exact hclean)
      rw [hstep] at hopen hrecords
      obtain ⟨-, records, hload, -, rfl⟩ := openJournal_eq_ok_iff.mp hopen
      obtain ⟨-, hlength, -⟩ := load_eq_ok_iff.mp hload
      have hrecords : records = s.returned ++ [r] := hrecords
      exact hlength r (by simp [hrecords])

end Runs

lemma run_concat (events : List Event) (event : Event) : run (events ++ [event]) = step (run events) event := by
  rw [run, List.foldl_append]
  rfl

/-- Safe events lead to sound states. -/
lemma sound_run {events : List Event} (h : AllSafe events) : Sound (run events) := by
  induction events using List.reverseRecOn with
  | nil => exact sound_start
  | append_singleton events event ih =>
    rw [run_concat]
    refine (ih fun before event hpre => ?_).step (h events event (List.prefix_refl _))
    exact h before event (hpre.trans (List.prefix_append _ _))

/-- Where the journal always opens again, every event is safe: by induction the events before the last are, so that
the state before it is sound. -/
lemma allSafe_of_alwaysReopens {events : List Event} (h : AlwaysReopens events) : AllSafe events := by
  induction events using List.reverseRecOn with
  | nil => exact fun before event hpre => absurd (List.prefix_nil.mp hpre) (by simp)
  | append_singleton events event ih =>
    have hinit : AllSafe events := by
      refine ih ⟨fun before hpre => h.1 before (hpre.trans (List.prefix_append _ _)), ?_⟩
      exact fun before event hpre => h.2 before event (hpre.trans (List.prefix_append _ _))
    intro before event' hpre
    rcases List.prefix_concat_iff.mp hpre with heq | hpre
    · obtain ⟨rfl, hevent⟩ := List.append_inj' heq rfl
      rw [List.singleton_inj.mp hevent]
      have hreopens := h.1 _ (List.prefix_refl _)
      rw [run_concat] at hreopens
      exact safe_of_promise (sound_run hinit) hreopens (h.2 before event (List.prefix_refl _))
    · exact hinit before event' hpre

/-- **The runs in which the journal can always be opened again** on exactly what it acknowledged are those in which no
append returns on an object of which an earlier one raised once bytes had reached the file, and none returns with a
record of more than 64 KiB while every append has returned or left the file as it was.

**Proof sketch.** From safe events the invariant follows, and with it the promise at every point. The converse is
`allSafe_of_alwaysReopens`. -/
theorem alwaysReopens_iff (events : List Event) : AlwaysReopens events ↔ AllSafe events := by
  refine ⟨allSafe_of_alwaysReopens, fun h => ?_⟩
  refine ⟨fun before hpre => ?_, fun before event hpre => harmless_of_safe (h before event hpre)⟩
  have hbefore : AllSafe before := fun b e hb => h b e (hb.trans hpre)
  exact (sound_run hbefore).reopens

namespace Sample

/-- A probe that timed out. -/
def observation : StaticProbeObservation := StaticProbeObservation.sealed {
  schemaVersion := .direct
  probeKind := .hidden
  validatorHotkey := "5V"
  deploymentID := "d"
  siteDigest := "sha256:" ++ String.ofList (List.replicate 64 '1')
  releaseDigest := "sha256:" ++ String.ofList (List.replicate 64 '2')
  releaseTrustPolicyDigestSha256 := String.ofList (List.replicate 64 '4')
  endpointID := "d-1"
  generation := 1
  minerUID := 1
  minerHotkey := "5A"
  probeNonce := String.ofList (List.replicate 64 '5')
  issuedAt := "1970-01-01T00:06:40Z"
  requestMethod := .get
  requestPath := "/"
  expectedKind := .directoryIndex
  expectedStatus := 200
  expectedContentLength := 5
  expectedBodySha256 := String.ofList (List.replicate 64 'a')
  expectedHeaderSha256 := String.ofList (List.replicate 64 'b')
  latencyMillis := 20
  outcome := .failure
  failureCode := some .timeout
  attribution := .path
  quarantineCandidate := false
  upstreamMarker := false
  responseStatus := none
  responseBytes := 0
  responseBodySha256 := none
  responseHeaderSha256 := none
  tlsLeafCertificateSha256 := none
  attestationStatus := .notPresented
  attestation := none
  publicFraming := false
  transportPolicyDigestSha256 := none
  deliveredHTTPVersion := none
  deliveredHeaders := none
  observationDigestSha256 := "" }

lemma observation_valid : observation.Valid :=
  StaticProbeObservation.sealed_valid_iff.mpr ⟨⟨by decide, by decide, Contract.sha256Digest_replicate (by decide),
    Contract.sha256Digest_replicate (by decide), Contract.hex64_replicate (by decide), by decide, by decide, by decide,
    by decide, Contract.hex64_replicate (by decide), by decide, by decide, by decide, by decide,
    Contract.hex64_replicate (by decide), Contract.hex64_replicate (by decide), by decide, by decide, by decide,
    by decide, by decide, by decide, by decide, by decide⟩, by decide⟩

/-- The observation is appended to a new journal, the sync fails, and it is appended again. -/
def events : List Event :=
  [.reopen true, .append observation (.writes 65536) false, .append observation (.writes 65536) true]

/-- The record of the observation, admitted to the new journal. -/
lemma admitted : (journalOf [] 0).accept observation =
      .ok (recordAfter none observation, recordBytes (recordAfter none observation)) ∧
    (recordBytes (recordAfter none observation)).length ≤ 65536 := by
  have hvalid : (recordAfter none observation).Valid :=
    recordAfter_valid observation_valid fun p hp => absurd hp (Option.not_mem_none p)
  have hlength := length_recordBytes_le hvalid rfl
  refine ⟨accept_eq_ok_iff.mpr ⟨rfl, ?_, List.not_mem_nil, rfl, ?_⟩, hlength⟩
  · exact appendStaticEvidence_eq_ok_iff.mpr ⟨observation_valid, fun p hp => absurd hp (Option.not_mem_none p), rfl⟩
  · have hsize : (journalOf [] 0).size = 0 := rfl
    rw [maxEvidenceRecordBytes] at hlength
    rw [hsize, maxEvidenceJournalBytes]
    omega

end Sample

/-- **A failed sync leaves the object open**: the record is in the file, the next append of the same observation
returns, and no opening admits the file any more. -/
theorem unsynced_append_not_reopened : ¬ AlwaysReopens Sample.events := by
  intro h
  obtain ⟨haccept, hlength⟩ := Sample.admitted
  have hwriting : (Writing.writes 65536).Completes (recordBytes (recordAfter none Sample.observation)) := hlength
  have hopen : openJournal [] true = .ok (journalOf [] 0) :=
    openJournal_eq_ok_iff.mpr ⟨Nat.zero_le _, [],
      load_eq_ok_iff.mpr ⟨rfl, List.forall_mem_nil _, chained_nil⟩, fun _ => rfl, rfl⟩
  have hfirst : run [.reopen true] = { start with journal := some (journalOf [] 0), spoiled := false } := by
    change step start (.reopen true) = _
    rw [step, start, hopen]
  have hsecond : (run [.reopen true, .append Sample.observation (.writes 65536) false]).journal =
        some (journalOf [] 0) ∧
      (run [.reopen true, .append Sample.observation (.writes 65536) false]).spoiled = true := by
    have hconcat := run_concat [.reopen true] (.append Sample.observation (.writes 65536) false)
    rw [List.singleton_append] at hconcat
    rw [hconcat, hfirst, step, appended, Option.map_some, append_of_unsynced haccept hwriting]
    refine ⟨rfl, ?_⟩
    simp [start, recordBytes_ne_nil]
  have hsafe := allSafe_of_alwaysReopens h
    [.reopen true, .append Sample.observation (.writes 65536) false] _ (List.prefix_refl _)
  obtain ⟨hspoiled, -⟩ := hsafe _ _ _ hsecond.1 haccept hwriting rfl
  rw [hsecond.2] at hspoiled
  cases hspoiled

end StaticEvidence

end Misscomputer
