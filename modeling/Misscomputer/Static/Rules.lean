import Misscomputer.Static.Manifest

set_option relaxedAutoImplicit false
set_option autoImplicit false

/-!
# The rules of a site

What each of the three judgements of a manifest amounts to. All three enforce one set of rules; the wire
contract and the miner each add to it.

## Main definitions

* `Static.SiteRules` — the rules all three have in common.
* `Static.NoRawSpace`, `Static.NoFoldedCollision`, `Static.OneLength` — the rules they do not.

## Main results

* `Static.index_validate_ok` — the validator judges by the common rules alone.
* `Static.contracts_validate_ok` — the wire contract also refuses unescaped spaces and a file that is a
  directory of another up to case.
* `Static.validate_ok` — the miner also refuses one digest with two lengths.

## References

* `pkg/static/manifest.go`
* `src/misscomputer_subnet/static_index.py`, `src/misscomputer_subnet/static_contracts.py`
-/

namespace Misscomputer.Static

open Text

/-! ## The rules -/

/-- The rules for one file. -/
structure FileRules (file : File) : Prop where
  /-- The digest is 64 hexadecimal digits. -/
  digest : validHex64 file.bodySha256 = true
  /-- The length is not negative. -/
  nonneg : 0 ≤ file.contentLength
  /-- The length is within the limit of a file. -/
  le_max : file.contentLength ≤ maxFileBytes
  /-- The path is one the validator accepts. -/
  path : StaticIndex.validateFilePath file.path = .ok ()
  /-- The type is that of the extension. -/
  type : file.contentType = contentTypeFor file.path

/-- The files list an HTML file under `path`. -/
def ListsHtml (files : List File) (path : List Char) : Prop :=
  ∃ file ∈ files, file.path = path ∧ file.contentType = htmlType

/-- **The rules all three implementations enforce.** -/
structure SiteRules (m : Manifest) : Prop where
  /-- The document is a static-site-manifest. -/
  schema : m.schema = manifestSchema
  /-- Its version is one. -/
  schemaVersion : m.schemaVersion = 1
  /-- It names the pinned handler. -/
  handler : m.handler = handlerVersion
  /-- It lists a file. -/
  files_ne_nil : m.files ≠ []
  /-- It lists at most 4096 files. -/
  files_le : m.files.length ≤ maxFiles
  /-- Each file keeps the rules for one file. -/
  file : ∀ file ∈ m.files, FileRules file
  /-- The paths ascend. -/
  ascending : (m.files.map File.path).Pairwise (· < ·)
  /-- The paths differ by more than case. -/
  folded : (m.files.map fun file => lower file.path).Nodup
  /-- No file is a directory of another. -/
  apart : ∀ file ∈ m.files, ∀ other ∈ m.files, ¬ IsDirectory file.path other.path
  /-- The files are at most 256 MiB in all. -/
  total : (m.files.map File.contentLength).sum ≤ maxTotalBytes
  /-- The root document is listed. -/
  root : ∃ file ∈ m.files, file.path = indexPath
  /-- The fallback names a listed HTML file. -/
  fallback : ∀ fallback ∈ m.fallback, fallback.kind = fallbackKind ∧ ListsHtml m.files fallback.target

/-- No path has an unescaped space. -/
def NoRawSpace (m : Manifest) : Prop := ∀ file ∈ m.files, ' ' ∉ file.path

/-- No file is a directory of another up to case. -/
def NoFoldedCollision (m : Manifest) : Prop :=
  ∀ file ∈ m.files, ∀ other ∈ m.files, ¬ IsDirectory (lower file.path) (lower other.path)

/-- Files with one digest have one length. -/
def OneLength (m : Manifest) : Prop :=
  ∀ file ∈ m.files, ∀ other ∈ m.files, file.bodySha256 = other.bodySha256 →
    file.contentLength = other.contentLength

/-! ## Facts the three proofs share -/

/-- The types of the table are ASCII and within the limit. -/
lemma contentTypeFor_bounds (path : List Char) :
    IsAscii (contentTypeFor path) ∧ (contentTypeFor path).length ≤ 128 := by
  have htable : ∀ entry ∈ contentTypes, IsAscii entry.2 ∧ entry.2.length ≤ 128 := by decide
  have hdefault : IsAscii octetStream ∧ octetStream.length ≤ 128 := by decide
  unfold contentTypeFor
  split
  · cases hlookup : contentTypes.lookup (lower (afterLast '.' (lastSegment path))) with
    | none => exact hdefault
    | some type =>
      obtain ⟨before, after, hmem, -⟩ := List.lookup_eq_some_iff.mp hlookup
      exact htable _ (by rw [hmem]; exact List.mem_append_right _ List.mem_cons_self)
  · exact hdefault

/-- The root document is HTML. -/
lemma contentTypeFor_indexPath : contentTypeFor indexPath = htmlType := by decide

/-- Paths that ascend are the paths of different files. -/
lemma path_injOn {files : List File} (hasc : (files.map File.path).Pairwise (· < ·)) {f g : File}
    (hf : f ∈ files) (hg : g ∈ files) (hpath : f.path = g.path) : f = g := by
  have hnodup : (files.map File.path).Nodup := hasc.imp ne_of_lt
  exact List.inj_on_of_nodup_map hnodup hf hg hpath

/-- Among files with different paths, a search for an HTML file by path finds it. -/
lemma exists_find_iff {files : List File} {path : List Char} (found : Option File)
    (hasc : (files.map File.path).Pairwise (· < ·))
    (hfound : ∀ file ∈ found, file ∈ files ∧ file.path = path)
    (hnone : found = none → ∀ file ∈ files, file.path ≠ path) :
    (∃ file ∈ found, file.contentType = htmlType) ↔ ListsHtml files path := by
  constructor
  · rintro ⟨file, hfile, htype⟩
    exact ⟨file, (hfound file hfile).1, (hfound file hfile).2, htype⟩
  · rintro ⟨file, hfile, hpath, htype⟩
    cases hres : found with
    | none => exact absurd hpath (hnone hres file hfile)
    | some other =>
      obtain ⟨hother, hpath'⟩ := hfound other hres
      have : other = file := path_injOn hasc hother hfile (hpath'.trans hpath.symm)
      exact ⟨other, rfl, by rw [this]; exact htype⟩

/-- A path the validator accepts is ASCII, starts with a slash and has a name behind it. -/
lemma shape_of_validateFilePath {p : List Char} (hp : StaticIndex.validateFilePath p = .ok ()) :
    IsAscii p ∧ p.head? = some '/' ∧ 2 ≤ p.length ∧ p.length ≤ 1024 := by
  unfold StaticIndex.validateFilePath at hp
  simp only [Except.bind_eq_ok, segments_eq_ok, Except.forM_eq_ok, Except.reject_eq_ok] at hp
  obtain ⟨segments, ⟨hascii, hsplit, -⟩, hfile⟩ := hp
  unfold StaticContracts.splitPath at hsplit
  split at hsplit
  · cases hsplit
  · rename_i hshape
    simp only [not_or, not_not, not_lt] at hshape
    obtain rfl := Option.some.inj hsplit
    refine ⟨hascii, hshape.1, ?_, hshape.2.1⟩
    -- a lone slash has one segment, and it is empty
    rcases p with _ | ⟨c, _ | ⟨d, p⟩⟩
    · cases hshape.1
    · exact absurd (Or.inl rfl) (hfile [] (by simp))
    · simp

/-! ## The validator -/

lemma notAscending_eq_false {paths : List (List Char)} :
    ¬ (StaticIndex.notAscending paths = true) ↔ paths.Pairwise (· < ·) := by
  rw [← List.isChain_iff_pairwise]
  induction paths using StaticIndex.notAscending.induct with
  | case1 left right rest ih =>
    rw [List.isChain_cons_cons, ← ih]
    simp [StaticIndex.notAscending]
  | case2 paths hshort =>
    rcases paths with _ | ⟨a, _ | ⟨b, paths⟩⟩
    · simp [StaticIndex.notAscending]
    · simp [StaticIndex.notAscending]
    · exact absurd rfl (hshort a b paths)

/-- A set of texts is as large as their list exactly when they differ. -/
lemma dedup_length_iff {l : List (List Char)} : l.dedup.length = l.length ↔ l.Nodup := by
  rw [← List.dedup_eq_self]
  exact ⟨fun h => (List.dedup_sublist l).eq_of_length h, fun h => by rw [h]⟩

/-- The validator's rules for one file. -/
lemma index_checkFile_ok {file : File} : StaticIndex.checkFile file = .ok () ↔ FileRules file := by
  have hmax : maxFileBytes = 16777216 := rfl
  unfold StaticIndex.checkFile StaticIndex.contentTypeForPath
  simp only [Except.bind_eq_ok, Except.reject_eq_ok, exists_const, not_lt, not_not,
    Bool.not_eq_false]
  constructor
  · rintro ⟨hdigest, hnonneg, hle, -, _, hpath, htype⟩
    exact ⟨hdigest, hnonneg, hle, hpath, htype⟩
  · rintro ⟨hdigest, hnonneg, hle, hpath, htype⟩
    refine ⟨hdigest, hnonneg, hle, ?_, (), hpath, htype⟩
    rw [htype]
    exact (contentTypeFor_bounds file.path).2

/-- A search for the fallback's target by path finds an HTML file. -/
lemma nextByPath_iff {files : List File} {path : List Char}
    (hasc : (files.map File.path).Pairwise (· < ·)) :
    (¬ ∀ target ∈ StaticIndex.nextByPath files path, target.contentType ≠ htmlType) ↔
      ListsHtml files path := by
  rw [← exists_find_iff (StaticIndex.nextByPath files path) hasc]
  · simp only [not_forall, not_not, exists_prop]
  · intro file hfile
    exact ⟨List.mem_of_find?_eq_some hfile, by simpa using List.find?_some hfile⟩
  · intro hnone file hfile
    simpa using List.find?_eq_none.mp hnone file hfile

/-- **The validator judges by the common rules alone.** -/
theorem index_validate_ok (m : Manifest) : StaticIndex.validate m = .ok () ↔ SiteRules m := by
  have hroot : '/' :: indexName = indexPath := by decide
  have hfallback : ∀ fallback, StaticIndex.checkFallback fallback = .ok () ↔
      fallback.kind = fallbackKind ∧ StaticIndex.validateFilePath fallback.target = .ok () := by
    intro fallback
    simp only [StaticIndex.checkFallback, Except.bind_eq_ok, Except.reject_eq_ok, exists_const, not_not]
  have hfolded : (((m.files.map File.path).map lower).dedup.length = (m.files.map File.path).length) ↔
      (m.files.map fun file => lower file.path).Nodup := by
    have hmap : (m.files.map File.path).map lower = m.files.map fun file => lower file.path := by
      rw [List.map_map]
      rfl
    rw [← dedup_length_iff, hmap, List.length_map, List.length_map]
  have hapart : (∀ path ∈ m.files.map File.path,
      path ++ ['/'] ∉ (m.files.map File.path).flatMap StaticIndex.directories) ↔
      ∀ file ∈ m.files, ∀ other ∈ m.files, ¬ IsDirectory file.path other.path := by
    simp only [List.mem_flatMap, List.mem_map, mem_directories]
    constructor
    · intro h file hfile other hother hdir
      exact h file.path ⟨file, hfile, rfl⟩ ⟨other.path, ⟨other, hother, rfl⟩, hdir⟩
    · rintro h _ ⟨file, hfile, rfl⟩ ⟨_, ⟨other, hother, rfl⟩, hdir⟩
      exact h file hfile other hother hdir
  unfold StaticIndex.validate
  simp only [Except.bind_eq_ok, Except.reject_eq_ok, exists_const, Except.forM_eq_ok,
    index_checkFile_ok, notAscending_eq_false, hfallback, hroot, not_exists, not_and, ne_eq, not_not,
    not_lt, Option.mem_toList, hfolded, hapart]
  constructor
  · rintro ⟨hfb, hne, hle, hfile, hhandler, hschema, hversion, hasc, hfold, hdir, htotal, hindex, htarget⟩
    refine ⟨hschema, hversion, hhandler, hne, hle, hfile, hasc, hfold, hdir, htotal,
      List.mem_map.mp hindex, fun fallback hfallback => ⟨(hfb fallback hfallback).1, ?_⟩⟩
    exact (nextByPath_iff hasc).mp (htarget fallback hfallback)
  · intro h
    refine ⟨fun fallback hfallback => ?_, h.files_ne_nil, h.files_le, h.file, h.handler, h.schema,
      h.schemaVersion, h.ascending, h.folded, h.apart, h.total, List.mem_map.mpr h.root,
      fun fallback hfallback => (nextByPath_iff h.ascending).mpr (h.fallback fallback hfallback).2⟩
    -- the target is a listed path, and those are valid
    obtain ⟨hkind, file, hfile, hpath, -⟩ := h.fallback fallback hfallback
    exact ⟨hkind, hpath ▸ (h.file file hfile).path⟩

/-! ## The wire contract -/

/-- Paths equal to their sorted set ascend. -/
lemma sorted_iff {paths : List (List Char)} :
    paths = paths.dedup.mergeSort (fun a b => a ≤ b) ↔ paths.Pairwise (· < ·) := by
  have hle : ∀ {a b : List Char}, decide (a ≤ b) = true ↔ a ≤ b := decide_eq_true_iff
  constructor
  · intro h
    have hsorted : (paths.dedup.mergeSort fun a b => a ≤ b).Pairwise (fun a b => decide (a ≤ b) = true) :=
      List.pairwise_mergeSort
        (fun a b c hab hbc => decide_eq_true ((of_decide_eq_true hab).trans (of_decide_eq_true hbc)))
        (fun a b => by simpa using le_total a b) _
    have hnodup : (paths.dedup.mergeSort fun a b => a ≤ b).Nodup :=
      (List.mergeSort_perm _ _).nodup_iff.mpr (List.nodup_dedup _)
    rw [← h] at hsorted hnodup
    exact (hsorted.and hnodup).imp fun ⟨hab, hne⟩ => lt_of_le_of_ne (hle.mp hab) hne
  · intro h
    have hnodup : paths.Nodup := h.imp ne_of_lt
    rw [List.dedup_eq_self.mpr hnodup, List.mergeSort_of_pairwise]
    exact h.imp fun hab => hle.mpr hab.le

/-- What the wire contract's loop requires of the files it has seen. -/
def ContractsSeen (files : List File) : Prop :=
  (∀ file ∈ files, StaticContracts.validFilePath file.path = true ∧
      file.contentType = contentTypeFor file.path) ∧
    (files.map fun file => lower file.path).Nodup

/-- `folded` and `directories` after some files. -/
def contractsAfter (files : List File) : List (List Char) × List (List Char) :=
  (files.map fun file => lower file.path,
    files.flatMap fun file => StaticContracts.directoriesOf (lower file.path))

/-- The wire contract's loop succeeds exactly on such files. -/
lemma contracts_loop_ok {files : List File} {s : List (List Char) × List (List Char)} :
    files.foldlM StaticContracts.checkFile ([], []) = .ok s ↔
      ContractsSeen files ∧ s = contractsAfter files := by
  have hstart : ([], []) = contractsAfter [] := rfl
  rw [hstart]
  refine Except.foldlM_eq_ok ⟨by simp, by simp⟩ ?_ ?_
  · rintro files file ⟨hfile, hnodup⟩
    rw [List.map_append] at hnodup
    exact ⟨fun other hother => hfile other (List.mem_append_left _ hother), hnodup.of_append_left⟩
  · rintro files file s ⟨hfile, hnodup⟩
    simp only [StaticContracts.checkFile, Except.bind_eq_ok, Except.reject_eq_ok, exists_const,
      Bool.not_eq_false, Except.ok.injEq]
    simp only [StaticContracts.contentTypeFor, ContractsSeen, contractsAfter, List.map_append,
      List.flatMap_append, List.map_singleton, List.flatMap_singleton, List.nodup_append,
      List.mem_append, List.mem_singleton, ne_eq, not_not]
    constructor
    · rintro ⟨hpath, htype, hnew, rfl⟩
      refine ⟨⟨?_, hnodup, by simp, ?_⟩, rfl⟩
      · rintro other (hother | rfl)
        · exact hfile other hother
        · exact ⟨hpath, htype⟩
      · rintro key hkey _ rfl rfl
        exact hnew hkey
    · rintro ⟨⟨hall, -, -, hnew⟩, rfl⟩
      obtain ⟨hpath, htype⟩ := hall file (.inr rfl)
      exact ⟨hpath, htype, fun hmem => hnew _ hmem _ rfl rfl, rfl⟩

lemma byPath_iff {files : List File} {path : List Char}
    (hasc : (files.map File.path).Pairwise (· < ·)) :
    (¬ ∀ target ∈ StaticContracts.byPath files path, target.contentType ≠ htmlType) ↔
      ListsHtml files path := by
  rw [← exists_find_iff (StaticContracts.byPath files path) hasc]
  · simp only [not_forall, not_not, exists_prop]
  · intro file hfile
    exact ⟨List.mem_reverse.mp (List.mem_of_find?_eq_some hfile), by simpa using List.find?_some hfile⟩
  · intro hnone file hfile
    simpa using List.find?_eq_none.mp hnone file (List.mem_reverse.mpr hfile)

/-- Lower-casing keeps the leading slash of a path. -/
lemma head?_lower {p : List Char} (hp : p.head? = some '/') : (lower p).head? = some '/' := by
  rw [lower, List.head?_map, hp]
  rfl

/-- A directory stays one when both are lower-cased. -/
lemma IsDirectory.lower {d p : List Char} (h : IsDirectory d p) :
    IsDirectory (Static.lower d) (Static.lower p) := by
  obtain ⟨hne, rest, rfl⟩ := h
  refine ⟨by simpa [Static.lower] using hne, Static.lower rest, ?_⟩
  simp [Static.lower]

/-- The wire contract accepts the paths the validator accepts, less those with an unescaped space. -/
lemma contracts_validFilePath_iff (p : List Char) :
    StaticContracts.validFilePath p = true ↔ StaticIndex.validateFilePath p = .ok () ∧ ' ' ∉ p := by
  rw [← validFilePath_bytes, validateFilePath_ok]

/-- **The wire contract's judgement.** Besides the common rules it refuses unescaped spaces, and a file
that is a directory of another up to case. -/
theorem contracts_validate_ok (m : Manifest) :
    StaticContracts.validate m = .ok () ↔ SiteRules m ∧ NoRawSpace m ∧ NoFoldedCollision m := by
  have hfallback : ∀ fallback, StaticContracts.checkFallback fallback = .ok () ↔
      fallback.kind = fallbackKind ∧ 2 ≤ fallback.target.length ∧ fallback.target.length ≤ 1024 := by
    intro fallback
    simp only [StaticContracts.checkFallback, Except.bind_eq_ok, Except.reject_eq_ok, exists_const,
      not_not, not_lt]
  have hmembers : ∀ file, StaticContracts.checkMembers file = .ok () ↔
      validHex64 file.bodySha256 = true ∧ 0 ≤ file.contentLength ∧ file.contentLength ≤ 16777216 ∧
        file.contentType.length ≤ 128 ∧ 2 ≤ file.path.length ∧ file.path.length ≤ 1024 := by
    intro file
    simp only [StaticContracts.checkMembers, Except.bind_eq_ok, Except.reject_eq_ok, exists_const,
      not_lt, Bool.not_eq_false]
  unfold StaticContracts.validate
  simp only [Except.bind_eq_ok, Except.reject_eq_ok, exists_const, Except.forM_eq_ok, hmembers, hfallback]
  simp only [contracts_loop_ok, sorted_iff, ne_eq, not_not, not_lt, Option.mem_toList]
  constructor
  · rintro ⟨hfb, hne, hle, hmem, hhandler, hschema, hversion, hasc, _, ⟨⟨hseen, hfolded⟩, rfl⟩, hcollide,
      htotal, hindex, htarget⟩
    have hpath : ∀ file ∈ m.files, StaticIndex.validateFilePath file.path = .ok () ∧ ' ' ∉ file.path :=
      fun file hfile => (contracts_validFilePath_iff file.path).mp (hseen file hfile).1
    have hapart : NoFoldedCollision m := by
      intro file hfile other hother hdir
      have hhead := head?_lower (shape_of_validateFilePath (hpath other hother).1).2.1
      exact hcollide ⟨lower file.path, List.mem_map.mpr ⟨file, hfile, rfl⟩,
        List.mem_flatMap.mpr ⟨other, hother, (contracts_mem_directoriesOf hhead).mpr hdir⟩⟩
    refine ⟨?_, fun file hfile => (hpath file hfile).2, hapart⟩
    have hroot := (byPath_iff hasc).mp hindex
    refine ⟨hschema, hversion, hhandler, hne, hle, ?_, hasc, hfolded, ?_, htotal, ?_, ?_⟩
    · intro file hfile
      obtain ⟨hdigest, hnonneg, hmax, -⟩ := hmem file hfile
      exact ⟨hdigest, hnonneg, hmax, (hpath file hfile).1, (hseen file hfile).2⟩
    · exact fun file hfile other hother hdir => hapart file hfile other hother hdir.lower
    · obtain ⟨file, hfile, hname, -⟩ := hroot
      exact ⟨file, hfile, hname⟩
    · intro fallback hfallback
      exact ⟨(hfb fallback hfallback).1,
        (byPath_iff hasc).mp fun h => htarget ⟨fallback, hfallback, h⟩⟩
  · rintro ⟨h, hspace, hapart⟩
    have hroot : ListsHtml m.files indexPath := by
      obtain ⟨file, hfile, hname⟩ := h.root
      exact ⟨file, hfile, hname, by rw [(h.file file hfile).type, hname, contentTypeFor_indexPath]⟩
    refine ⟨?_, h.files_ne_nil, h.files_le, ?_, h.handler, h.schema, h.schemaVersion, h.ascending, _,
      ⟨⟨?_, h.folded⟩, rfl⟩, ?_, h.total, (byPath_iff h.ascending).mpr hroot, ?_⟩
    · intro fallback hfallback
      obtain ⟨hkind, file, hfile, hname, -⟩ := h.fallback fallback hfallback
      have hshape := shape_of_validateFilePath (h.file file hfile).path
      rw [hname] at hshape
      exact ⟨hkind, hshape.2.2⟩
    · intro file hfile
      have hrules := h.file file hfile
      have hshape := shape_of_validateFilePath hrules.path
      refine ⟨hrules.digest, hrules.nonneg, hrules.le_max, ?_, hshape.2.2⟩
      rw [hrules.type]
      exact (contentTypeFor_bounds file.path).2
    · intro file hfile
      exact ⟨(contracts_validFilePath_iff file.path).mpr ⟨(h.file file hfile).path, hspace file hfile⟩,
        (h.file file hfile).type⟩
    · rintro ⟨key, hkey, hdir⟩
      obtain ⟨file, hfile, rfl⟩ := List.mem_map.mp hkey
      obtain ⟨other, hother, hdir⟩ := List.mem_flatMap.mp hdir
      have hhead := head?_lower (shape_of_validateFilePath (h.file other hother).path).2.1
      exact hapart file hfile other hother ((contracts_mem_directoriesOf hhead).mp hdir)
    · rintro ⟨fallback, hfallback, hmissing⟩
      exact (byPath_iff h.ascending).mpr (h.fallback fallback hfallback).2 hmissing

/-! ## The miner -/

/-- A path the miner accepts is within its limits. -/
lemma limits_of_validFilePath {p : List UInt8} (hp : validFilePath p = true) :
    p.length ≤ maxPathBytes ∧ p.count 0x2f ≤ maxDepth ∧
      ∀ segment ∈ p.splitOn 0x2f, segment.length ≤ maxSegmentBytes := by
  unfold validFilePath at hp
  cases hsplit : splitPath p with
  | none => simp [hsplit] at hp
  | some segments =>
    simp only [hsplit, List.all_eq_true] at hp
    unfold splitPath at hsplit
    split at hsplit
    · cases hsplit
    · rename_i hshape
      simp only [not_or, not_not, not_lt] at hshape
      obtain rfl := Option.some.inj hsplit
      refine ⟨hshape.2.1, hshape.2.2, fun segment hsegment => ?_⟩
      rcases p with _ | ⟨b, p⟩
      · cases hshape.1
      · have hb : b = 0x2f := by simpa using hshape.1
        rw [List.splitOn_cons_eq_if_modifyHead, if_pos (by simp [hb])] at hsegment
        rcases List.mem_cons.mp hsegment with rfl | hsegment
        · simp
        · have hvalid := hp segment hsegment
          simp only [validFileSegment, validRequestSegment, Bool.and_eq_true, decide_eq_true_eq] at hvalid
          exact hvalid.1.1.1.1.2

/-- What the miner's loop requires of the files it has seen. -/
structure MinerSeen (files : List File) : Prop where
  /-- Every path is a file path. -/
  path : ∀ file ∈ files, validFilePath (bytes file.path) = true
  /-- Every length, digest and type is as it should be. -/
  members : ∀ file ∈ files, file.contentLength ≤ maxFileBytes ∧ 0 ≤ file.contentLength ∧
    validHex64 file.bodySha256 = true ∧ file.contentType = contentTypeFor file.path
  /-- The paths ascend. -/
  ascending : files.Pairwise fun file other => bytes file.path < bytes other.path
  /-- One digest has one length. -/
  lengths : ∀ file ∈ files, ∀ other ∈ files, file.bodySha256 = other.bodySha256 →
    file.contentLength = other.contentLength
  /-- The paths differ by more than case. -/
  folded : (files.map fun file => lower file.path).Nodup

/-- The variables of the miner's loop after some files. -/
def minerAfter (files : List File) : Scan where
  index := files.length
  previous := files.getLast?.map File.path
  total := (files.map File.contentLength).sum
  folded := files.map fun file => lower file.path
  directories := files.flatMap fun file => directoriesOf (lower file.path)
  lengths := (files.map fun file => (file.bodySha256, file.contentLength)).reverse

/-- The file before a position is the largest of those before it. -/
lemma previous_iff {files : List File} {path : List Char}
    (hasc : files.Pairwise fun file other => bytes file.path < bytes other.path) :
    (¬ ∃ previous ∈ files.getLast?.map File.path, bytes path ≤ bytes previous) ↔
      ∀ file ∈ files, bytes file.path < bytes path := by
  induction files using List.reverseRecOn with
  | nil => simp
  | append_singleton files last _ =>
    simp only [List.getLast?_concat, Option.map_some, Option.mem_def, Option.some.injEq,
      exists_eq_left', List.not_le]
    constructor
    · intro h file hfile
      rcases List.mem_append.mp hfile with hfile | hfile
      · have hlast := (List.pairwise_append.mp hasc).2.2 file hfile last List.mem_cons_self
        exact List.lt_trans hlast h
      · rw [List.mem_singleton.mp hfile]
        exact h
    · exact fun h => h last (List.mem_append_right _ List.mem_cons_self)

/-- The length recorded for a digest is that of every file seen with it. -/
lemma lengths_iff {files : List File} {digest : List Char} {size : ℤ}
    (hone : ∀ file ∈ files, ∀ other ∈ files, file.bodySha256 = other.bodySha256 →
      file.contentLength = other.contentLength) :
    (¬ ∃ seen ∈ (minerAfter files).lengths.lookup digest, seen ≠ size) ↔
      ∀ file ∈ files, file.bodySha256 = digest → file.contentLength = size := by
  have hmem : ∀ {entry : List Char × ℤ}, entry ∈ (minerAfter files).lengths ↔
      ∃ file ∈ files, (file.bodySha256, file.contentLength) = entry := by
    simp [minerAfter]
  cases hlookup : (minerAfter files).lengths.lookup digest with
  | none =>
    have hnone := List.lookup_eq_none_iff.mp hlookup
    constructor
    · intro _ file hfile hdigest
      have := hnone _ (hmem.mpr ⟨file, hfile, rfl⟩)
      simp [hdigest] at this
    · rintro _ ⟨seen, hseen, -⟩
      cases hseen
  | some seen =>
    obtain ⟨before, after, hsplit, -⟩ := List.lookup_eq_some_iff.mp hlookup
    obtain ⟨first, hfirst, hentry⟩ := hmem.mp
      (by rw [hsplit]; exact List.mem_append_right _ (List.mem_cons_self (a := (digest, seen))))
    obtain ⟨rfl, rfl⟩ := Prod.mk.inj hentry
    simp only [Option.mem_def, Option.some.injEq, exists_eq_left', ne_eq, not_not]
    constructor
    · rintro rfl file hfile hdigest
      exact hone file hfile first hfirst hdigest
    · exact fun h => h first hfirst rfl

/-- The miner has seen one more file. -/
lemma minerSeen_concat {files : List File} {file : File} :
    MinerSeen (files ++ [file]) ↔ MinerSeen files ∧
      (∀ other ∈ files, bytes other.path < bytes file.path) ∧ validFilePath (bytes file.path) = true ∧
      (file.contentLength ≤ maxFileBytes ∧ 0 ≤ file.contentLength ∧
        validHex64 file.bodySha256 = true ∧ file.contentType = contentTypeFor file.path) ∧
      (∀ other ∈ files, other.bodySha256 = file.bodySha256 →
        other.contentLength = file.contentLength) ∧
      lower file.path ∉ files.map fun file => lower file.path := by
  have hmem : ∀ {other}, other ∈ files → other ∈ files ++ [file] := List.mem_append_left _
  have hlast : file ∈ files ++ [file] := List.mem_append_right _ List.mem_cons_self
  constructor
  · intro h
    obtain ⟨hasc, -, hbefore⟩ := List.pairwise_append.mp h.ascending
    have hfolded := h.folded
    rw [List.map_append, List.nodup_append] at hfolded
    refine ⟨⟨fun f hf => h.path f (hmem hf), fun f hf => h.members f (hmem hf), hasc,
      fun f hf g hg => h.lengths f (hmem hf) g (hmem hg), hfolded.1⟩,
      fun f hf => hbefore f hf file List.mem_cons_self, h.path file hlast, h.members file hlast,
      fun f hf => h.lengths f (hmem hf) file hlast, fun hdup => ?_⟩
    exact hfolded.2.2 _ hdup _ List.mem_cons_self rfl
  · rintro ⟨h, hbefore, hpath, hmembers, hlengths, hnew⟩
    have hcases : ∀ {other}, other ∈ files ++ [file] → other ∈ files ∨ other = file := by
      simp
    refine ⟨?_, ?_, ?_, ?_, ?_⟩
    · rintro f hf
      rcases hcases hf with hf | rfl
      · exact h.path f hf
      · exact hpath
    · rintro f hf
      rcases hcases hf with hf | rfl
      · exact h.members f hf
      · exact hmembers
    · refine List.pairwise_append.mpr ⟨h.ascending, List.pairwise_singleton _ _, fun f hf g hg => ?_⟩
      rw [List.mem_singleton.mp hg]
      exact hbefore f hf
    · rintro f hf g hg hdigest
      rcases hcases hf with hf' | hf' <;> rcases hcases hg with hg' | hg'
      · exact h.lengths f hf' g hg' hdigest
      · rw [hg'] at hdigest ⊢
        exact hlengths f hf' hdigest
      · rw [hf'] at hdigest ⊢
        exact (hlengths g hg' hdigest.symm).symm
      · rw [hf', hg']
    · rw [List.map_append, List.nodup_append]
      refine ⟨h.folded, List.nodup_singleton _, fun key hkey key' hkey' heq => ?_⟩
      rw [List.map_singleton, List.mem_singleton] at hkey'
      rw [heq, hkey'] at hkey
      exact hnew hkey

/-- The miner's loop succeeds exactly on such files. -/
lemma loop_ok {files : List File} {s : Scan} :
    files.foldlM checkFile ⟨0, none, 0, [], [], []⟩ = .ok s ↔ MinerSeen files ∧ s = minerAfter files := by
  have hstart : (⟨0, none, 0, [], [], []⟩ : Scan) = minerAfter [] := rfl
  rw [hstart]
  refine Except.foldlM_eq_ok ?_ (fun files file h => (minerSeen_concat.mp h).1) ?_
  · exact ⟨by simp, by simp, List.Pairwise.nil, by simp, List.nodup_nil⟩
  · intro files file s h
    simp only [checkFile, Except.bind_eq_ok, Except.reject_eq_ok, exists_const, Except.ok.injEq,
      Bool.not_eq_false]
    rw [minerSeen_concat]
    have hnext : (⟨(minerAfter files).index + 1, some file.path,
        (minerAfter files).total + file.contentLength, (minerAfter files).folded ++ [lower file.path],
        (minerAfter files).directories ++ directoriesOf (lower file.path),
        (file.bodySha256, file.contentLength) :: (minerAfter files).lengths⟩ : Scan) =
        minerAfter (files ++ [file]) := by
      simp [minerAfter]
    rw [hnext]
    constructor
    · rintro ⟨hprevious, -, -, hpath, hmax, hmembers, hlengths, hnew, rfl⟩
      simp only [not_or, not_lt, not_not, Bool.not_eq_false, ne_eq] at hmembers hmax
      exact ⟨⟨h, (previous_iff h.ascending).mp hprevious, hpath,
        ⟨hmax, hmembers.1, hmembers.2.1, hmembers.2.2.2⟩, (lengths_iff h.lengths).mp hlengths, hnew⟩, rfl⟩
    · rintro ⟨⟨-, hbefore, hpath, ⟨hmax, hnonneg, hdigest, htype⟩, hlengths, hnew⟩, rfl⟩
      obtain ⟨hlength, hdepth, hsegments⟩ := limits_of_validFilePath hpath
      have hbounds := contentTypeFor_bounds file.path
      refine ⟨(previous_iff h.ascending).mpr hbefore, by omega, ?_, hpath, by omega, ?_,
        (lengths_iff h.lengths).mpr hlengths, hnew, rfl⟩
      · rintro ⟨segment, hsegment, hlong⟩
        have := hsegments segment hsegment
        omega
      · simp only [not_or, not_lt, not_not, Bool.not_eq_false, ne_eq]
        refine ⟨hnonneg, hdigest, ?_, htype⟩
        rw [htype, bytes_eq_map hbounds.1, List.length_map]
        exact hbounds.2

lemma lists_iff {files : List File} {path : List Char}
    (hasc : (files.map File.path).Pairwise (· < ·)) :
    ¬ lists files path htmlType = false ↔ ListsHtml files path := by
  rw [← nextByPath_iff hasc, lists, StaticIndex.nextByPath]
  cases files.find? fun file => file.path = path <;> simp

/-- **The miner's judgement.** Besides the common rules it refuses unescaped spaces, a file that is a
directory of another up to case, and one digest with two lengths. -/
theorem validate_ok (m : Manifest) :
    validate m = .ok () ↔ SiteRules m ∧ NoRawSpace m ∧ NoFoldedCollision m ∧ OneLength m := by
  unfold validate
  simp only [Except.bind_eq_ok, Except.reject_eq_ok, exists_const]
  simp only [loop_ok, ne_eq, not_or, not_not, not_lt]
  constructor
  · rintro ⟨⟨hschema, hversion, hhandler⟩, hne, hle, _, ⟨hseen, rfl⟩, hcollide, htotal, hindex, hfallback⟩
    have hpath : ∀ file ∈ m.files, StaticIndex.validateFilePath file.path = .ok () ∧ ' ' ∉ file.path :=
      fun file hfile => (validateFilePath_ok file.path).mp (hseen.path file hfile)
    have hascii : ∀ file ∈ m.files, IsAscii file.path := fun file hfile =>
      (shape_of_validateFilePath (hpath file hfile).1).1
    have hasc : (m.files.map File.path).Pairwise (· < ·) := by
      refine List.pairwise_map.mpr (hseen.ascending.imp_of_mem fun hf hg hlt => ?_)
      exact (bytes_lt_bytes (hascii _ hf) (hascii _ hg)).mp hlt
    have hapart : NoFoldedCollision m := by
      intro file hfile other hother hdir
      exact hcollide ⟨lower file.path, List.mem_map.mpr ⟨file, hfile, rfl⟩,
        List.mem_flatMap.mpr ⟨other, hother, mem_directoriesOf.mpr hdir⟩⟩
    refine ⟨?_, fun file hfile => (hpath file hfile).2, hapart, hseen.lengths⟩
    refine ⟨hschema, hversion, hhandler, hne, hle, ?_, hasc, hseen.folded, ?_, htotal, ?_, ?_⟩
    · intro file hfile
      obtain ⟨hmax, hnonneg, hdigest, htype⟩ := hseen.members file hfile
      exact ⟨hdigest, hnonneg, hmax, (hpath file hfile).1, htype⟩
    · exact fun file hfile other hother hdir => hapart file hfile other hother hdir.lower
    · obtain ⟨file, hfile, hname, -⟩ := (lists_iff hasc).mp hindex
      exact ⟨file, hfile, hname⟩
    · intro fallback hmem
      simp only [not_exists, not_and, not_or, not_not] at hfallback
      exact ⟨(hfallback fallback hmem).1, (lists_iff hasc).mp (hfallback fallback hmem).2⟩
  · rintro ⟨h, hspace, hapart, hone⟩
    have hroot : ListsHtml m.files indexPath := by
      obtain ⟨file, hfile, hname⟩ := h.root
      exact ⟨file, hfile, hname, by rw [(h.file file hfile).type, hname, contentTypeFor_indexPath]⟩
    have hascii : ∀ file ∈ m.files, IsAscii file.path := fun file hfile =>
      (shape_of_validateFilePath (h.file file hfile).path).1
    refine ⟨⟨h.schema, h.schemaVersion, h.handler⟩, h.files_ne_nil, h.files_le, _, ⟨?_, rfl⟩, ?_, h.total,
      (lists_iff h.ascending).mpr hroot, ?_⟩
    · refine ⟨?_, ?_, ?_, hone, h.folded⟩
      · intro file hfile
        exact (validateFilePath_ok file.path).mpr ⟨(h.file file hfile).path, hspace file hfile⟩
      · intro file hfile
        have hrules := h.file file hfile
        exact ⟨hrules.le_max, hrules.nonneg, hrules.digest, hrules.type⟩
      · refine (List.pairwise_map.mp h.ascending).imp_of_mem fun hf hg hlt => ?_
        exact (bytes_lt_bytes (hascii _ hf) (hascii _ hg)).mpr hlt
    · rintro ⟨key, hkey, hdir⟩
      obtain ⟨file, hfile, rfl⟩ := List.mem_map.mp hkey
      obtain ⟨other, hother, hdir⟩ := List.mem_flatMap.mp hdir
      exact hapart file hfile other hother (mem_directoriesOf.mp hdir)
    · rintro ⟨fallback, hmem, hbad⟩
      obtain ⟨hkind, hlisted⟩ := h.fallback fallback hmem
      rcases hbad with hbad | hbad
      · exact hbad hkind
      · exact (lists_iff h.ascending).mpr hlisted hbad

end Misscomputer.Static
