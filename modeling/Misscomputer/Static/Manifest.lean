import Misscomputer.Static.Path
import Mathlib.Data.List.Dedup
import Mathlib.Data.List.Sort
import Mathlib.Algebra.BigOperators.Group.List.Basic

set_option relaxedAutoImplicit false
set_option autoImplicit false

/-!
# The site manifest

A static site is described by one document: its files with their digests, lengths and types, and an
optional fallback. Three implementations judge it: the miner's `Manifest.Validate`, the validator's
model `static_index.StaticSiteManifest` and the wire contract's `static_contracts.StaticSiteManifest`.
Here are the document and the three judgements.

## Main definitions

* `Static.Manifest` — the document.
* `Static.validate`, `StaticIndex.validate`, `StaticContracts.validate` — the three judgements.
* `Static.IsDirectory` — a text is a directory of a path.

## Main results

* `Static.mem_directoriesOf`, `Static.mem_directories`, `Static.contracts_mem_directoriesOf` — the three
  implementations see the same directories of a path.

## Implementation notes

A string of the decoded document is a text. The miner's strings are its UTF-8 bytes, so its model
applies `Text.bytes` where the code counts, compares or scans bytes. The three lower-case a path only
after it passed the path grammar, so the model's lower-casing is that of ASCII letters.

## References

* `pkg/static/manifest.go`, `pkg/static/errors.go`
* `src/misscomputer_subnet/static_index.py`, `src/misscomputer_subnet/static_contracts.py`
-/

namespace Misscomputer

open Text

/-! ## The document -/

namespace Static

/-- `File`: one entry of a manifest. -/
structure File where
  /-- The hex SHA-256 of the body. -/
  bodySha256 : List Char
  /-- The number of bytes of the body. -/
  contentLength : ℤ
  /-- The type the body is served under. -/
  contentType : List Char
  /-- The path of the file. -/
  path : List Char
deriving DecidableEq, Repr

/-- `Fallback`: the rule for paths no file answers. -/
structure Fallback where
  /-- The kind of the rule. -/
  kind : List Char
  /-- The path of the file that answers. -/
  target : List Char
deriving DecidableEq, Repr

/-- `Manifest`: static-site-manifest v1. -/
structure Manifest where
  /-- The fallback rule, if the site declares one. -/
  fallback : Option Fallback
  /-- The files of the site. -/
  files : List File
  /-- The version of the serving semantics. -/
  handler : List Char
  /-- The schema of the document. -/
  schema : List Char
  /-- The version of the schema. -/
  schemaVersion : ℤ
deriving DecidableEq, Repr

/-- `ManifestSchema`. -/
def manifestSchema : List Char := "miss.computer/misscomputer-subnet/static-site-manifest".toList

/-- `HandlerVersion`. -/
def handlerVersion : List Char := "static-handler.v1".toList

/-- `FallbackKind`. -/
def fallbackKind : List Char := "spa-html-v1".toList

/-- `MaxFiles`. -/
def maxFiles : ℕ := 4096

/-- `MaxTotalBytes`. -/
def maxTotalBytes : ℤ := 268435456

/-- `MaxFileBytes`. -/
def maxFileBytes : ℤ := 16777216

/-- `MaxContentTypeLen`. -/
def maxContentTypeLen : ℕ := 128

/-- `indexName`. -/
def indexName : List Char := "index.html".toList

/-- `IndexPath`. -/
def indexPath : List Char := "/index.html".toList

/-- `htmlType`. -/
def htmlType : List Char := "text/html; charset=utf-8".toList

/-- `contentTypes`: the type of each extension, the same table in all three implementations. -/
def contentTypes : List (List Char × List Char) :=
  [("html".toList, htmlType),
    ("htm".toList, htmlType),
    ("css".toList, "text/css; charset=utf-8".toList),
    ("js".toList, "text/javascript; charset=utf-8".toList),
    ("mjs".toList, "text/javascript; charset=utf-8".toList),
    ("json".toList, "application/json".toList),
    ("map".toList, "application/json".toList),
    ("webmanifest".toList, "application/manifest+json".toList),
    ("txt".toList, "text/plain; charset=utf-8".toList),
    ("csv".toList, "text/csv; charset=utf-8".toList),
    ("md".toList, "text/markdown; charset=utf-8".toList),
    ("xml".toList, "application/xml".toList),
    ("svg".toList, "image/svg+xml".toList),
    ("png".toList, "image/png".toList),
    ("jpg".toList, "image/jpeg".toList),
    ("jpeg".toList, "image/jpeg".toList),
    ("gif".toList, "image/gif".toList),
    ("webp".toList, "image/webp".toList),
    ("avif".toList, "image/avif".toList),
    ("ico".toList, "image/x-icon".toList),
    ("woff".toList, "font/woff".toList),
    ("woff2".toList, "font/woff2".toList),
    ("ttf".toList, "font/ttf".toList),
    ("otf".toList, "font/otf".toList),
    ("wasm".toList, "application/wasm".toList),
    ("pdf".toList, "application/pdf".toList),
    ("mp4".toList, "video/mp4".toList),
    ("webm".toList, "video/webm".toList),
    ("mp3".toList, "audio/mpeg".toList)]

/-- The type of a file without a listed extension. -/
def octetStream : List Char := "application/octet-stream".toList

/-- `strings.ToLower` and `str.lower` of an ASCII text. -/
def lower (s : List Char) : List Char := s.map Char.toLower

/-- `lastSegment`. -/
def lastSegment (path : List Char) : List Char := afterLast '/' path

/-- `ContentTypeFor`. -/
def contentTypeFor (path : List Char) : List Char :=
  if '.' ∈ lastSegment path then
    (contentTypes.lookup (lower (afterLast '.' (lastSegment path)))).getD octetStream
  else octetStream

/-- `ValidHex64`: 64 lower-case hexadecimal digits. -/
def validHex64 (s : List Char) : Bool :=
  s.length = 64 && s.all fun c => ('0' ≤ c && c ≤ '9') || ('a' ≤ c && c ≤ 'f')

/-! ## The miner's judgement -/

/-- The codes a manifest is refused with. -/
inductive Code
  | verifyFailed
  | manifestInvalid
  | limitsExceeded
  | internal
deriving DecidableEq, Repr

/-- `Error`: a code and the text that goes with it. -/
structure Failure where
  /-- The code. -/
  code : Code
  /-- The text. -/
  text : String
deriving DecidableEq, Repr

/-- The variables of the loop of `Validate`. -/
structure Scan where
  /-- The position of the next file. -/
  index : ℕ
  /-- The path of the file before it. -/
  previous : Option (List Char)
  /-- `total`. -/
  total : ℤ
  /-- `folded`. -/
  folded : List (List Char)
  /-- `directories`. -/
  directories : List (List Char)
  /-- `lengths`, the latest entry first. -/
  lengths : List (List Char × ℤ)

/-- The directories the loop of `Validate` records for a lower-cased path: what stands before each slash
but a leading one, the longest first. -/
def directoriesOf (key : List Char) : List (List Char) :=
  ((List.range key.length).reverse.filter fun cut => 0 < cut ∧ key[cut]? = some '/').map key.take

/-- The body of the loop of `Validate`. -/
def checkFile (s : Scan) (file : File) : Except Failure Scan := do
  let index := s.index
  Except.reject (∃ previous ∈ s.previous, bytes file.path ≤ bytes previous)
    ⟨.manifestInvalid, "static_paths_not_ascending"⟩
  Except.reject (maxPathBytes < (bytes file.path).length ∨ maxDepth < (bytes file.path).count 0x2f)
    ⟨.limitsExceeded, s!"site manifest path {index} exceeds the path limits"⟩
  Except.reject (∃ segment ∈ (bytes file.path).splitOn 0x2f, maxSegmentBytes < segment.length)
    ⟨.limitsExceeded, s!"site manifest path {index} has a segment over 255 bytes"⟩
  Except.reject (validFilePath (bytes file.path) = false)
    ⟨.manifestInvalid, s!"static_path_invalid: path {index}"⟩
  Except.reject (maxFileBytes < file.contentLength)
    ⟨.limitsExceeded, s!"site manifest path {index} exceeds 16777216 bytes"⟩
  Except.reject (file.contentLength < 0 ∨ validHex64 file.bodySha256 = false ∨
      maxContentTypeLen < (bytes file.contentType).length ∨
      file.contentType ≠ contentTypeFor file.path)
    ⟨.manifestInvalid,
      s!"static_content_type_invalid: path {index} has an invalid length, digest or content type"⟩
  Except.reject (∃ size ∈ s.lengths.lookup file.bodySha256, size ≠ file.contentLength)
    ⟨.manifestInvalid, s!"static_digest_length_inconsistent: path {index}"⟩
  Except.reject (lower file.path ∈ s.folded)
    ⟨.manifestInvalid, s!"static_case_fold_collision: path {index}"⟩
  .ok
    { index := index + 1
      previous := some file.path
      total := s.total + file.contentLength
      folded := s.folded ++ [lower file.path]
      directories := s.directories ++ directoriesOf (lower file.path)
      lengths := (file.bodySha256, file.contentLength) :: s.lengths }

/-- `lists`. -/
def lists (files : List File) (path contentType : List Char) : Bool :=
  match files.find? fun file => file.path = path with
  | none => false
  | some file => file.contentType = contentType

/-- `Validate`. -/
def validate (m : Manifest) : Except Failure Unit := do
  Except.reject (m.schema ≠ manifestSchema ∨ m.schemaVersion ≠ 1 ∨ m.handler ≠ handlerVersion)
    ⟨.manifestInvalid, "unsupported site manifest schema or handler"⟩
  Except.reject (m.files = []) ⟨.manifestInvalid, "site manifest lists no files"⟩
  Except.reject (maxFiles < m.files.length)
    ⟨.limitsExceeded, "site manifest lists more than 4096 files"⟩
  let s ← m.files.foldlM checkFile ⟨0, none, 0, [], [], []⟩
  Except.reject (∃ key ∈ s.folded, key ∈ s.directories)
    ⟨.manifestInvalid, "static_file_directory_collision"⟩
  Except.reject (maxTotalBytes < s.total)
    ⟨.limitsExceeded, "static_total_bytes_exceeded: more than 268435456 bytes"⟩
  Except.reject (lists m.files indexPath htmlType = false)
    ⟨.manifestInvalid, "static_index_missing: /index.html must be listed as HTML"⟩
  Except.reject (∃ fallback ∈ m.fallback,
      fallback.kind ≠ fallbackKind ∨ lists m.files fallback.target htmlType = false)
    ⟨.manifestInvalid, "static_fallback_invalid: must be spa-html-v1 naming a listed HTML file"⟩

end Static

/-! ## The validator's judgement -/

namespace StaticIndex

open Static (Manifest File Fallback lower)

/-- `content_type_for_path`. -/
def contentTypeForPath (path : List Char) : List Char := Static.contentTypeFor path

/-- `StaticSiteFile`: the constraints of its members and `policy_content_type`. -/
def checkFile (file : File) : Except String Unit := do
  Except.reject (Static.validHex64 file.bodySha256 = false) "string_pattern_mismatch"
  Except.reject (file.contentLength < 0) "greater_than_equal"
  Except.reject (16777216 < file.contentLength) "less_than_equal"
  Except.reject (128 < file.contentType.length) "string_too_long"
  validateFilePath file.path
  Except.reject (file.contentType ≠ contentTypeForPath file.path) "static_content_type_invalid"

/-- `StaticSiteFallback`. -/
def checkFallback (fallback : Fallback) : Except String Unit := do
  Except.reject (fallback.kind ≠ Static.fallbackKind) "literal_error"
  validateFilePath fallback.target

/-- `_directories`: every proper directory of a path, each with its slash. -/
def directories (path : List Char) : List (List Char) :=
  ((List.range path.length).filter fun index => path[index]? = some '/' ∧ 0 < index).map fun index =>
    path.take (index + 1)

/-- Some path is not below the one after it. -/
def notAscending : List (List Char) → Bool
  | left :: right :: rest => right ≤ left || notAscending (right :: rest)
  | _ => false

/-- `next((item for item in self.files if item.path == path), None)`. -/
def nextByPath (files : List File) (path : List Char) : Option File :=
  files.find? fun item => item.path = path

/-- `StaticSiteManifest`: the constraints of its members and `whole_manifest`. -/
def validate (m : Manifest) : Except String Unit := do
  m.fallback.toList.forM checkFallback
  Except.reject (m.files = []) "too_short"
  Except.reject (4096 < m.files.length) "too_long"
  m.files.forM checkFile
  Except.reject (m.handler ≠ Static.handlerVersion) "literal_error"
  Except.reject (m.schema ≠ Static.manifestSchema) "literal_error"
  Except.reject (m.schemaVersion ≠ 1) "literal_error"
  let paths := m.files.map File.path
  Except.reject (notAscending paths) "static_files_not_ascending"
  Except.reject ((paths.map lower).dedup.length ≠ paths.length) "static_path_case_collision"
  Except.reject (∃ path ∈ paths, path ++ ['/'] ∈ paths.flatMap directories)
    "static_path_file_directory_collision"
  Except.reject (268435456 < (m.files.map File.contentLength).sum) "static_total_bytes_exceeded"
  Except.reject ('/' :: Static.indexName ∉ paths) "static_root_response_missing"
  Except.reject (∃ fallback ∈ m.fallback,
      ∀ target ∈ nextByPath m.files fallback.target, target.contentType ≠ Static.htmlType)
    "static_fallback_invalid"

end StaticIndex

/-! ## The wire contract's judgement -/

namespace StaticContracts

open Static (Manifest File Fallback lower)

/-- `content_type_for`. -/
def contentTypeFor (path : List Char) : List Char := Static.contentTypeFor path

/-- `StaticFile`. -/
def checkMembers (file : File) : Except String Unit := do
  Except.reject (Static.validHex64 file.bodySha256 = false) "string_pattern_mismatch"
  Except.reject (file.contentLength < 0) "greater_than_equal"
  Except.reject (16777216 < file.contentLength) "less_than_equal"
  Except.reject (128 < file.contentType.length) "string_too_long"
  Except.reject (file.path.length < 2) "string_too_short"
  Except.reject (1024 < file.path.length) "string_too_long"

/-- `StaticFallback`. -/
def checkFallback (fallback : Fallback) : Except String Unit := do
  Except.reject (fallback.kind ≠ Static.fallbackKind) "literal_error"
  Except.reject (fallback.target.length < 2) "string_too_short"
  Except.reject (1024 < fallback.target.length) "string_too_long"

/-- The directories `site_rules` records for a lower-cased path. -/
def directoriesOf (key : List Char) : List (List Char) :=
  let parts := key.splitOn '/'
  (List.range' 2 (parts.length - 2)).map fun stop => ['/'].intercalate (parts.take stop)

/-- The body of the loop of `site_rules`, over `folded` and `directories`. -/
def checkFile (s : List (List Char) × List (List Char)) (item : File) :
    Except String (List (List Char) × List (List Char)) := do
  Except.reject (validFilePath item.path = false) "static_path_invalid"
  Except.reject (item.contentType ≠ contentTypeFor item.path) "static_content_type_invalid"
  Except.reject (lower item.path ∈ s.1) "static_case_fold_collision"
  .ok (s.1 ++ [lower item.path], s.2 ++ directoriesOf (lower item.path))

/-- `by_path.get(path)`: the last file listed under a path. -/
def byPath (files : List File) (path : List Char) : Option File :=
  files.reverse.find? fun file => file.path = path

/-- `StaticSiteManifest`: the constraints of its members and `site_rules`. -/
def validate (m : Manifest) : Except String Unit := do
  m.fallback.toList.forM checkFallback
  Except.reject (m.files = []) "too_short"
  Except.reject (4096 < m.files.length) "too_long"
  m.files.forM checkMembers
  Except.reject (m.handler ≠ Static.handlerVersion) "literal_error"
  Except.reject (m.schema ≠ Static.manifestSchema) "literal_error"
  Except.reject (m.schemaVersion ≠ 1) "literal_error"
  let paths := m.files.map File.path
  Except.reject (paths ≠ paths.dedup.mergeSort fun a b => a ≤ b) "static_paths_not_ascending"
  let s ← m.files.foldlM checkFile ([], [])
  Except.reject (∃ key ∈ s.1, key ∈ s.2) "static_file_directory_collision"
  Except.reject (268435456 < (m.files.map File.contentLength).sum) "static_total_bytes_exceeded"
  Except.reject (∀ index ∈ byPath m.files Static.indexPath, index.contentType ≠ Static.htmlType)
    "static_index_missing"
  Except.reject (∃ fallback ∈ m.fallback,
      ∀ target ∈ byPath m.files fallback.target, target.contentType ≠ Static.htmlType)
    "static_fallback_invalid"

end StaticContracts

/-! ## Directories -/

namespace Static

/-- `d` is a directory of `p`: it stands before one of its slashes, and is not empty. -/
def IsDirectory (d p : List Char) : Prop := d ≠ [] ∧ ∃ rest, p = d ++ '/' :: rest

lemma take_eq_iff {key : List Char} {cut : ℕ} (hcut : key[cut]? = some '/') :
    key = key.take cut ++ '/' :: key.drop (cut + 1) := by
  obtain ⟨hlt, hval⟩ := List.getElem?_eq_some_iff.mp hcut
  rw [← hval, List.cons_getElem_drop_succ, List.take_append_drop]

/-- The miner records the directories of a path. -/
lemma mem_directoriesOf {key d : List Char} : d ∈ directoriesOf key ↔ IsDirectory d key := by
  simp only [directoriesOf, List.mem_map, List.mem_filter, List.mem_reverse, List.mem_range,
    decide_eq_true_eq, IsDirectory]
  constructor
  · rintro ⟨cut, ⟨hlt, hpos, hslash⟩, rfl⟩
    refine ⟨?_, key.drop (cut + 1), take_eq_iff hslash⟩
    simp only [ne_eq, List.take_eq_nil_iff, not_or]
    exact ⟨by omega, by rintro rfl; simp at hlt⟩
  · rintro ⟨hne, rest, rfl⟩
    have hpos : 0 < d.length := List.length_pos_iff.mpr hne
    refine ⟨d.length, ⟨by simp, hpos, by simp⟩, by simp⟩

/-- The validator records the directories of a path, each with its slash. -/
lemma mem_directories {p d : List Char} :
    d ++ ['/'] ∈ StaticIndex.directories p ↔ IsDirectory d p := by
  simp only [StaticIndex.directories, List.mem_map, List.mem_filter, List.mem_range,
    decide_eq_true_eq, IsDirectory]
  constructor
  · rintro ⟨cut, ⟨hlt, hslash, hpos⟩, heq⟩
    have hd : d = p.take cut := by
      rw [List.take_add_one, hslash, Option.toList_some] at heq
      exact (List.append_cancel_right heq).symm
    rw [hd]
    refine ⟨?_, p.drop (cut + 1), take_eq_iff hslash⟩
    simp only [ne_eq, List.take_eq_nil_iff, not_or]
    exact ⟨by omega, by rintro rfl; simp at hlt⟩
  · rintro ⟨hne, rest, rfl⟩
    have hpos : 0 < d.length := List.length_pos_iff.mpr hne
    refine ⟨d.length, ⟨by simp, by simp, hpos⟩, ?_⟩
    rw [List.take_length_add_append]
    rfl

/-- Joining two lists of parts puts one separator between them. -/
lemma intercalate_append {xs ys : List (List Char)} (hx : xs ≠ []) (hy : ys ≠ []) :
    ['/'].intercalate (xs ++ ys) = ['/'].intercalate xs ++ '/' :: ['/'].intercalate ys := by
  induction xs with
  | nil => exact absurd rfl hx
  | cons x xs ih =>
    rcases xs with _ | ⟨x', xs⟩
    · rcases ys with _ | ⟨y, ys⟩
      · exact absurd rfl hy
      · simp [List.intercalate, List.intersperse]
    · have ih := ih (List.cons_ne_nil _ _)
      simp only [List.cons_append, List.intercalate, List.intersperse, List.flatten_cons] at ih ⊢
      rw [ih]
      simp

/-- The wire contract records the directories of a path with a leading slash. -/
lemma contracts_mem_directoriesOf {key d : List Char} (hkey : key.head? = some '/') :
    d ∈ StaticContracts.directoriesOf key ↔ IsDirectory d key := by
  simp only [StaticContracts.directoriesOf, List.mem_map, List.mem_range'_1, IsDirectory]
  have hjoin : ['/'].intercalate (key.splitOn '/') = key := List.intercalate_splitOn '/'
  constructor
  · rintro ⟨stop, ⟨hlow, hhigh⟩, rfl⟩
    have htake : (key.splitOn '/').take stop ≠ [] := by
      simp only [ne_eq, List.take_eq_nil_iff, List.splitOn_ne_nil, or_false]
      omega
    have hdrop : (key.splitOn '/').drop stop ≠ [] := by
      simp only [ne_eq, List.drop_eq_nil_iff]
      omega
    have hsplit := intercalate_append htake hdrop
    rw [List.take_append_drop, hjoin] at hsplit
    refine ⟨?_, _, hsplit⟩
    -- two parts are joined by a slash at least
    rcases hparts : key.splitOn '/' with _ | ⟨a, _ | ⟨b, parts⟩⟩
    · exact absurd hparts (List.splitOn_ne_nil _ _)
    · rw [hparts, List.length_singleton] at hhigh
      omega
    · obtain ⟨stop, rfl⟩ := Nat.exists_eq_add_of_le' hlow
      have : ['/'].intercalate ([a] ++ b :: parts.take stop) =
          ['/'].intercalate [a] ++ '/' :: ['/'].intercalate (b :: parts.take stop) :=
        intercalate_append (by simp) (by simp)
      rw [List.take_succ_cons, List.take_succ_cons]
      rw [List.singleton_append] at this
      rw [this]
      simp
  · rintro ⟨hne, rest, rfl⟩
    have htwo : 2 ≤ (d.splitOn '/').length := by
      rcases d with _ | ⟨c, d⟩
      · exact absurd rfl hne
      · have hc : c = '/' := by simpa using hkey
        rw [List.splitOn_cons_eq_if_modifyHead, if_pos (by simp [hc]), List.length_cons]
        have := List.length_pos_iff.mpr (List.splitOn_ne_nil '/' d)
        omega
    have hrest := List.length_pos_iff.mpr (List.splitOn_ne_nil '/' rest)
    rw [List.splitOn_append_cons_self, List.length_append]
    refine ⟨(d.splitOn '/').length, ⟨htwo, by omega⟩, ?_⟩
    rw [List.take_left, List.intercalate_splitOn]

end Static

end Misscomputer
