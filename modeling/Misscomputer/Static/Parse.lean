import Misscomputer.Lib.Json
import Misscomputer.Lib.Sha256
import Misscomputer.Static.Response

set_option relaxedAutoImplicit false
set_option autoImplicit false

/-!
# Parsing a site

The three parsers of stored manifest bytes: the miner's `Parse`, the manifest step of the validator's
`ingest_static_index` and the wire contract's `parse_static_site_manifest`. Each decodes canonical JSON and
applies its own judgement.

## Main definitions

* `Static.parse`, `StaticIndex.parseManifest`, `StaticContracts.parseStaticSiteManifest` — the parsers.
* `Static.SameSites` — the three parsers accept the same bytes, and read the same site from them.
* `Static.canonicalBytes` — the canonical bytes of a manifest.

## Main results

* `Static.decode_canonicalText` — a manifest is decoded from its canonical bytes.
* `Static.parse_ok`, `Static.index_parse_ok`, `Static.contracts_parse_ok` — what each parser accepts.
* `Static.sameSites_iff` — the three parsers agree on some bytes exactly when these do not hold a site that
  keeps the common rules but not the rules the three do not have in common.

## Implementation notes

All three decoders end by rendering what they decoded and comparing the bytes, which is the check the
model keeps; it subsumes the others (unknown and missing members, non-integral numbers). The two
languages escape other characters: Go those below the space and the two line separators, Python all but
the printable ASCII characters.

## References

* `pkg/static/manifest.go`, `pkg/organic/vocabulary.go`, `pkg/assignment/canonical.go`
* `src/misscomputer_subnet/static_index.py`, `src/misscomputer_subnet/static_contracts.py`
* `src/misscomputer_subnet/contract_codec.py`
-/

namespace Misscomputer

open Text

namespace Static

/-! ## Canonical JSON -/

/-- The characters Go's encoder writes by their code. -/
def goCoded (c : Char) : Bool := c.toNat < 0x20 || c.toNat = 0x2028 || c.toNat = 0x2029

/-- The characters Python's encoder writes by their code. -/
def pythonCoded (c : Char) : Bool := !(' ' ≤ c && c ≤ '~')

/-- The escaping of `CanonicalJSON`. -/
def goEscape : Char → List Char := Json.escapeWith goCoded

/-- The escaping of `canonical_json`. -/
def pythonEscape : Char → List Char := Json.escapeWith pythonCoded

/-- A file as a JSON object. -/
def File.toJson (file : File) : Json :=
  .obj [("body_sha256".toList, .str file.bodySha256), ("content_length".toList, .num file.contentLength),
    ("content_type".toList, .str file.contentType), ("path".toList, .str file.path)]

/-- A fallback as a JSON value. -/
def fallbackToJson : Option Fallback → Json
  | none => .null
  | some fallback => .obj [("kind".toList, .str fallback.kind), ("target".toList, .str fallback.target)]

/-- A manifest as a JSON object. -/
def Manifest.toJson (m : Manifest) : Json :=
  .obj [("fallback".toList, fallbackToJson m.fallback), ("files".toList, .arr (m.files.map File.toJson)),
    ("handler".toList, .str m.handler), ("schema".toList, .str m.schema),
    ("schema_version".toList, .num m.schemaVersion)]

/-- The members of an object. -/
def members : Json → Option (List (List Char × Json))
  | .obj members => some members
  | _ => none

/-- A string member. -/
def readString (ms : List (List Char × Json)) (key : String) : Option (List Char) :=
  match ms.lookup key.toList with
  | some (.str s) => some s
  | _ => none

/-- An integer member. -/
def readInt (ms : List (List Char × Json)) (key : String) : Option ℤ :=
  match ms.lookup key.toList with
  | some (.num n) => some n
  | _ => none

/-- A file from a JSON value. -/
def File.ofJson (j : Json) : Option File := do
  let ms ← members j
  let bodySha256 ← readString ms "body_sha256"
  let contentLength ← readInt ms "content_length"
  let contentType ← readString ms "content_type"
  let path ← readString ms "path"
  some ⟨bodySha256, contentLength, contentType, path⟩

/-- A fallback from a JSON value. -/
def readFallback : Json → Option (Option Fallback)
  | .null => some none
  | j => do
    let ms ← members j
    let kind ← readString ms "kind"
    let target ← readString ms "target"
    some (some ⟨kind, target⟩)

/-- A list of files from a JSON value. -/
def readFiles : Json → Option (List File)
  | .arr items => items.mapM File.ofJson
  | _ => none

/-- A manifest from a JSON value. -/
def Manifest.ofJson (j : Json) : Option Manifest := do
  let ms ← members j
  let fallback ← readFallback (← ms.lookup "fallback".toList)
  let files ← readFiles (← ms.lookup "files".toList)
  let handler ← readString ms "handler"
  let schema ← readString ms "schema"
  let schemaVersion ← readInt ms "schema_version"
  some ⟨fallback, files, handler, schema, schemaVersion⟩

/-- The canonical text of a manifest: its JSON and one newline. -/
def canonicalText (esc : Char → List Char) (m : Manifest) : List Char :=
  m.toJson.render esc ++ ['\n']

/-- The text of ASCII bytes. -/
def asciiText (b : List UInt8) : Option (List Char) :=
  if b.all (· < 0x80) then some (b.map fun x => Char.ofNat x.toNat) else none

/-- The decoding of both languages: JSON text in ASCII bytes, read as a manifest. -/
def decode (b : List UInt8) : Option Manifest := do
  let text ← asciiText b
  Manifest.ofJson (← Json.parse text)

/-! ## The parsers -/

/-- `MaxManifestBytes`. -/
def maxManifestBytes : ℕ := 1048576

/-- `Digest` and `site_digest`. -/
def digest (stored : List UInt8) : List Char :=
  "sha256:".toList ++ Hex.encode (Sha256.sum256 (stored.map UInt8.toNat))

/-- `ValidDigest`. -/
def validDigest (s : List Char) : Bool :=
  s.take 7 = "sha256:".toList && validHex64 (s.drop 7)

/-- `DecodeCanonical` of a manifest. -/
def decodeCanonical (payload : List UInt8) : Except Failure Manifest :=
  match decode payload with
  | none => .error ⟨.manifestInvalid, "document_invalid"⟩
  | some m => do
    validate m
    Except.reject (¬ IsAscii (canonicalText goEscape m)) ⟨.manifestInvalid, "canonical json must be ascii"⟩
    Except.reject (bytes (canonicalText goEscape m) ≠ payload)
      ⟨.manifestInvalid, "document_not_canonical"⟩
    .ok m

/-- `Parse`. -/
def parse (stored : List UInt8) (siteDigest : List Char) : Except Failure Manifest := do
  Except.reject (validDigest siteDigest = false) ⟨.internal, "expected site digest is invalid"⟩
  Except.reject (stored = [] ∨ maxManifestBytes < stored.length ∨ digest stored ≠ siteDigest)
    ⟨.verifyFailed, "site manifest bytes do not match"⟩
  decodeCanonical stored

end Static

/-- `parse_model` of a manifest, under the judgement of its model. -/
def parseModel (validate : Static.Manifest → Except String Unit) (rendered : List UInt8) :
    Except String Static.Manifest := do
  Except.reject (rendered = []) "document_size_invalid"
  match Static.decode rendered with
  | none => .error "document_invalid"
  | some m => match validate m with
    | .error _ => .error "document_invalid"
    | .ok () => do
      Except.reject (bytes (Static.canonicalText Static.pythonEscape m) ≠ rendered) "document_not_canonical"
      .ok m

namespace StaticIndex

/-- The manifest step of `ingest_static_index`: the size limit and `parse_canonical_document`. -/
def parseManifest (manifestBytes : List UInt8) : Except String Static.Manifest := do
  Except.reject (1048576 < manifestBytes.length) "index_oversized"
  parseModel validate manifestBytes

end StaticIndex

namespace StaticContracts

/-- `parse_static_site_manifest`. -/
def parseStaticSiteManifest (rendered : List UInt8) (expectedSiteDigest : List Char) :
    Except String Static.Manifest := do
  Except.reject (1048576 < rendered.length ∨ Static.digest rendered ≠ expectedSiteDigest)
    "static_verify_failed"
  parseModel validate rendered

end StaticContracts

namespace Static

/-! ## Decoding canonical bytes -/

lemma faithful_pythonEscape : Json.Faithful pythonEscape := by
  refine Json.faithful_escapeWith fun c hc => ?_
  have hspace : ¬ ' ' ≤ c := by
    intro h
    have hle : (' ').toNat ≤ c.toNat := h
    have : (' ').toNat = 32 := rfl
    omega
  simp [pythonCoded, hspace]

lemma File.ofJson_toJson (file : File) : File.ofJson file.toJson = some file := rfl

lemma mapM_ofJson (files : List File) : (files.map File.toJson).mapM File.ofJson = some files := by
  rw [List.mapM_map]
  induction files with
  | nil => rfl
  | cons file files ih =>
    rw [List.mapM_cons, ih]
    rfl

lemma readFallback_fallbackToJson (fallback : Option Fallback) :
    readFallback (fallbackToJson fallback) = some fallback := by
  cases fallback <;> rfl

/-- A manifest is read back from its JSON value. -/
lemma Manifest.ofJson_toJson (m : Manifest) : Manifest.ofJson m.toJson = some m := by
  change (do
    let fallback ← readFallback (fallbackToJson m.fallback)
    let files ← (m.files.map File.toJson).mapM File.ofJson
    some (⟨fallback, files, m.handler, m.schema, m.schemaVersion⟩ : Manifest)) = some m
  rw [readFallback_fallbackToJson, mapM_ofJson]
  rfl

lemma Manifest.wellKeyed_toJson (m : Manifest) : m.toJson.WellKeyed := by
  have hfile : ∀ item ∈ m.files.map File.toJson, item.WellKeyed := by
    intro item hitem
    obtain ⟨file, -, rfl⟩ := List.mem_map.mp hitem
    refine ⟨?_, trivial, trivial, trivial, trivial, trivial⟩
    have hkeys : ["body_sha256".toList, "content_length".toList, "content_type".toList,
        "path".toList].Nodup := by decide
    exact hkeys
  have hfallback : (fallbackToJson m.fallback).WellKeyed := by
    cases m.fallback with
    | none => trivial
    | some fallback =>
      refine ⟨?_, trivial, trivial, trivial⟩
      have hkeys : ["kind".toList, "target".toList].Nodup := by decide
      exact hkeys
  refine ⟨?_, hfallback, Json.wellKeyedItems_iff.mpr hfile, trivial, trivial, trivial, trivial⟩
  have hkeys : ["fallback".toList, "files".toList, "handler".toList, "schema".toList,
      "schema_version".toList].Nodup := by decide
  exact hkeys

lemma asciiText_bytes {t : List Char} (ht : IsAscii t) : asciiText (bytes t) = some t := by
  rw [bytes_eq_map ht, asciiText, if_pos]
  · rw [List.map_map]
    congr 1
    conv_rhs => rw [← List.map_id t]
    refine List.map_congr_left fun c hc => ?_
    rw [Function.comp_apply, toUInt8_toNat (ht c hc), Char.ofNat_toNat, id]
  · simp only [List.all_map, List.all_eq_true, Function.comp_apply, decide_eq_true_eq]
    intro c hc
    rw [UInt8.lt_iff_toNat_lt, toUInt8_toNat (ht c hc)]
    exact ht c hc

/-- **A manifest is decoded from its canonical bytes.** -/
lemma decode_canonicalText {esc : Char → List Char} (hesc : Json.Faithful esc) {m : Manifest}
    (hascii : IsAscii (canonicalText esc m)) : decode (bytes (canonicalText esc m)) = some m := by
  have hparse : Json.parse (canonicalText esc m) = some m.toJson :=
    Json.parse_render hesc m.wellKeyed_toJson (by decide)
  simp only [decode, asciiText_bytes hascii, hparse, Option.bind_eq_bind, Option.bind_some,
    Manifest.ofJson_toJson]

/-! ## One rendering of an acceptable manifest -/

/-- A printable ASCII character other than the quote and the backslash: both languages write it as it
is. -/
def IsPlain (c : Char) : Prop := ' ' ≤ c ∧ c ≤ '~' ∧ c ≠ '"' ∧ c ≠ '\\'

instance (c : Char) : Decidable (IsPlain c) :=
  inferInstanceAs (Decidable (' ' ≤ c ∧ c ≤ '~' ∧ c ≠ '"' ∧ c ≠ '\\'))

lemma IsPlain.toNat {c : Char} (hc : IsPlain c) : 32 ≤ c.toNat ∧ c.toNat ≤ 126 :=
  ⟨hc.1, hc.2.1⟩

lemma escape_plain {c : Char} (hc : IsPlain c) : goEscape c = [c] ∧ pythonEscape c = [c] := by
  have hall := forall_ascii (P := fun c => IsPlain c → goEscape c = [c] ∧ pythonEscape c = [c])
    (by decide) c (by have := hc.toNat; omega)
  exact hall hc

lemma flatMap_escape_plain {s : List Char} (hs : ∀ c ∈ s, IsPlain c) :
    s.flatMap goEscape = s ∧ s.flatMap pythonEscape = s := by
  induction s with
  | nil => exact ⟨rfl, rfl⟩
  | cons c s ih =>
    obtain ⟨hgo, hpython⟩ := escape_plain (hs c List.mem_cons_self)
    obtain ⟨ihgo, ihpython⟩ := ih fun d hd => hs d (List.mem_cons_of_mem _ hd)
    rw [List.flatMap_cons, List.flatMap_cons, hgo, hpython, ihgo, ihpython]
    exact ⟨rfl, rfl⟩

/-- The characters of a path the validator accepts are plain. -/
lemma isPlain_of_validateFilePath {p : List Char} (hp : StaticIndex.validateFilePath p = .ok ()) :
    ∀ c ∈ p, IsPlain c := by
  have hL : ∀ c : Char, c.toNat < 128 → StaticIndex.inL c = true → IsPlain c := by
    exact forall_ascii (P := fun c => StaticIndex.inL c = true → IsPlain c) (by decide)
  have hescape : ∀ (s : List Char) (c : Char), c ∈ s →
      c ∈ StaticIndex.unescapeSpaces s ∨ c = '%' ∨ c = '2' ∨ c = '0' := by
    intro s
    induction s using StaticIndex.unescapeSpaces.induct with
    | case1 => simp
    | case2 rest ih =>
      intro c hc
      have hunescape : StaticIndex.unescapeSpaces ('%' :: '2' :: '0' :: rest) =
          ' ' :: StaticIndex.unescapeSpaces rest := rfl
      simp only [List.mem_cons] at hc
      rw [hunescape, List.mem_cons]
      rcases hc with rfl | rfl | rfl | hc
      · exact .inr (.inl rfl)
      · exact .inr (.inr (.inl rfl))
      · exact .inr (.inr (.inr rfl))
      · exact (ih c hc).imp_left .inr
    | case3 d rest hother ih =>
      intro c hc
      rw [unescapeSpaces_cons hother, List.mem_cons]
      rcases List.mem_cons.mp hc with rfl | hc
      · exact .inl (.inl rfl)
      · exact (ih c hc).imp_left .inr
  have hascii := (shape_of_validateFilePath hp).1
  unfold StaticIndex.validateFilePath at hp
  simp only [Except.bind_eq_ok, segments_eq_ok, Except.forM_eq_ok, Except.reject_eq_ok] at hp
  obtain ⟨segments, ⟨-, hsplit, -⟩, hfile⟩ := hp
  intro c hc
  by_cases hslash : c = '/'
  · rw [hslash]
    decide
  obtain ⟨s, hs, hmem⟩ := (mem_segment hsplit hslash).mp hc
  have hall := hfile s hs
  simp only [not_or, not_not, List.all_eq_true, Bool.or_eq_true, beq_iff_eq] at hall
  rcases hescape s c hmem with h | rfl | rfl | rfl
  · rcases hall.2 c h with h | rfl
    · exact hL c (hascii c hc) h
    · decide
  all_goals decide

/-- The strings of a manifest that keeps the common rules are plain. -/
lemma SiteRules.plain {m : Manifest} (h : SiteRules m) :
    (∀ file ∈ m.files, (∀ c ∈ file.bodySha256, IsPlain c) ∧ (∀ c ∈ file.contentType, IsPlain c) ∧
        ∀ c ∈ file.path, IsPlain c) ∧
      (∀ fallback ∈ m.fallback, (∀ c ∈ fallback.kind, IsPlain c) ∧ ∀ c ∈ fallback.target, IsPlain c) ∧
      (∀ c ∈ m.handler, IsPlain c) ∧ ∀ c ∈ m.schema, IsPlain c := by
  have htype : ∀ path, ∀ c ∈ contentTypeFor path, IsPlain c := by
    intro path
    have htable : ∀ entry ∈ contentTypes, ∀ c ∈ entry.2, IsPlain c := by decide
    have hdefault : ∀ c ∈ octetStream, IsPlain c := by decide
    unfold contentTypeFor
    split
    · cases hlookup : contentTypes.lookup (lower (afterLast '.' (lastSegment path))) with
      | none => exact hdefault
      | some type =>
        obtain ⟨before, after, hmem, -⟩ := List.lookup_eq_some_iff.mp hlookup
        exact htable (_, type) (by rw [hmem]; exact List.mem_append_right _ List.mem_cons_self)
    · exact hdefault
  have hhex : ∀ s : List Char, validHex64 s = true → ∀ c ∈ s, IsPlain c := by
    intro s hs c hc
    simp only [validHex64, Bool.and_eq_true, List.all_eq_true] at hs
    have hdigit := hs.2 c hc
    simp only [Bool.or_eq_true, Bool.and_eq_true, decide_eq_true_eq] at hdigit
    have hrange : c.toNat < 128 := by
      rcases hdigit with h | h
      · have : c.toNat ≤ ('9').toNat := h.2
        have : ('9').toNat = 57 := rfl
        omega
      · have : c.toNat ≤ ('f').toNat := h.2
        have : ('f').toNat = 102 := rfl
        omega
    exact forall_ascii (P := fun c => (('0' ≤ c ∧ c ≤ '9') ∨ ('a' ≤ c ∧ c ≤ 'f')) → IsPlain c)
      (by decide) c hrange hdigit
  refine ⟨fun file hfile => ?_, fun fallback hfallback => ?_, ?_, ?_⟩
  · have hrules := h.file file hfile
    refine ⟨hhex _ hrules.digest, ?_, isPlain_of_validateFilePath hrules.path⟩
    rw [hrules.type]
    exact htype _
  · obtain ⟨hkind, file, hfile, hpath, -⟩ := h.fallback fallback hfallback
    refine ⟨?_, hpath ▸ isPlain_of_validateFilePath (h.file file hfile).path⟩
    rw [hkind]
    decide
  · rw [h.handler]
    decide
  · rw [h.schema]
    decide

/-- The JSON value of a manifest with plain strings is plain. -/
lemma SiteRules.allChars {m : Manifest} (h : SiteRules m) : m.toJson.AllChars IsPlain := by
  obtain ⟨hfiles, hfallback, hhandler, hschema⟩ := h.plain
  have hitems : ∀ item ∈ m.files.map File.toJson, item.AllChars IsPlain := by
    intro item hitem
    obtain ⟨file, hfile, rfl⟩ := List.mem_map.mp hitem
    obtain ⟨hdigest, htype, hpath⟩ := hfiles file hfile
    exact ⟨by decide, hdigest, by decide, trivial, by decide, htype, by decide, hpath, trivial⟩
  have hfallbackJson : (fallbackToJson m.fallback).AllChars IsPlain := by
    cases hdeclared : m.fallback with
    | none => trivial
    | some fallback =>
      obtain ⟨hkind, htarget⟩ := hfallback fallback hdeclared
      exact ⟨by decide, hkind, by decide, htarget, trivial⟩
  exact ⟨by decide, hfallbackJson, by decide, Json.allCharsItems_iff.mpr hitems, by decide, hhandler,
    by decide, hschema, by decide, trivial, trivial⟩

/-- Both languages render it alike, in ASCII. -/
lemma SiteRules.canonicalText {m : Manifest} (h : SiteRules m) :
    Static.canonicalText goEscape m = Static.canonicalText pythonEscape m ∧
      IsAscii (Static.canonicalText pythonEscape m) := by
  constructor
  · have halike : ∀ c, IsPlain c → goEscape c = pythonEscape c := fun c hc =>
      (escape_plain hc).1.trans (escape_plain hc).2.symm
    rw [Static.canonicalText, Static.canonicalText, Json.render_congr halike h.allChars]
  · rw [Static.canonicalText, isAscii_append]
    refine ⟨Json.isAscii_render (fun c hc => ?_) h.allChars, by decide⟩
    rw [(escape_plain hc).2, isAscii_cons]
    have := hc.toNat
    exact ⟨by omega, isAscii_nil⟩

/-! ## What each parser accepts -/

/-- The canonical bytes of a manifest. -/
def canonicalBytes (m : Manifest) : List UInt8 := bytes (canonicalText pythonEscape m)

lemma canonicalBytes_ne_nil (m : Manifest) : canonicalBytes m ≠ [] := by
  have hlast : '\n' ∈ canonicalText pythonEscape m := by simp [canonicalText]
  intro h
  have := length_le_length_bytes (canonicalText pythonEscape m)
  rw [canonicalBytes] at h
  rw [h, List.length_nil, Nat.le_zero, List.length_eq_zero_iff] at this
  rw [this] at hlast
  cases hlast

/-- The bytes are the canonical ones of a manifest that keeps the common rules. -/
def Holds (b : List UInt8) (m : Manifest) : Prop :=
  b = canonicalBytes m ∧ b.length ≤ maxManifestBytes ∧ SiteRules m

lemma Holds.decode {b : List UInt8} {m : Manifest} (h : Holds b m) : decode b = some m := by
  rw [h.1, canonicalBytes]
  exact decode_canonicalText faithful_pythonEscape h.2.2.canonicalText.2

/-- Bytes hold one site at most. -/
lemma Holds.unique {b : List UInt8} {m m' : Manifest} (h : Holds b m) (h' : Holds b m') : m = m' :=
  Option.some.inj (h.decode.symm.trans h'.decode)

/-- `parse_model` under a judgement that includes the common rules. -/
lemma parseModel_ok {validate : Manifest → Except String Unit} {P : Manifest → Prop}
    (hvalidate : ∀ m, validate m = .ok () ↔ SiteRules m ∧ P m) {b : List UInt8} {m : Manifest} :
    b.length ≤ maxManifestBytes ∧ parseModel validate b = .ok m ↔ Holds b m ∧ P m := by
  constructor
  · rintro ⟨hlength, h⟩
    simp only [parseModel, Except.bind_eq_ok, Except.reject_eq_ok, exists_const] at h
    obtain ⟨-, h⟩ := h
    cases hdecode : decode b with
    | none => simp [hdecode] at h
    | some m' =>
      simp only [hdecode] at h
      cases hjudge : validate m' with
      | error e => simp [hjudge] at h
      | ok u =>
        simp only [hjudge, Except.bind_eq_ok, Except.reject_eq_ok, exists_const, not_not,
          Except.ok.injEq] at h
        obtain ⟨hcanonical, rfl⟩ := h
        obtain ⟨hrules, hP⟩ := (hvalidate m').mp hjudge
        exact ⟨⟨hcanonical.symm, hlength, hrules⟩, hP⟩
  · rintro ⟨h, hP⟩
    refine ⟨h.2.1, ?_⟩
    have hne : b ≠ [] := by
      rw [h.1]
      exact canonicalBytes_ne_nil m
    simp only [parseModel, Except.bind_eq_ok, Except.reject_eq_ok, exists_const, h.decode,
      (hvalidate m).mpr ⟨h.2.2, hP⟩, and_true]
    exact ⟨hne, not_not.mpr h.1.symm⟩

/-- **The validator's manifest step** accepts the sites that keep the common rules. -/
lemma index_parse_ok {b : List UInt8} {m : Manifest} :
    StaticIndex.parseManifest b = .ok m ↔ Holds b m := by
  have hlimit : maxManifestBytes = 1048576 := rfl
  have h := parseModel_ok (P := fun _ => True) (b := b) (m := m) fun m => by
    rw [and_true, index_validate_ok]
  simp only [and_true] at h
  rw [← h, StaticIndex.parseManifest]
  simp only [Except.bind_eq_ok, Except.reject_eq_ok, exists_const, not_lt, hlimit]

/-- **The wire contract** accepts those without an unescaped space and without a collision up to case. -/
lemma contracts_parse_ok {b : List UInt8} {m : Manifest} :
    StaticContracts.parseStaticSiteManifest b (digest b) = .ok m ↔
      Holds b m ∧ NoRawSpace m ∧ NoFoldedCollision m := by
  have hlimit : maxManifestBytes = 1048576 := rfl
  have h := parseModel_ok (P := fun m => NoRawSpace m ∧ NoFoldedCollision m) (b := b) (m := m)
    contracts_validate_ok
  rw [← h, StaticContracts.parseStaticSiteManifest]
  simp only [Except.bind_eq_ok, Except.reject_eq_ok, exists_const, not_or, not_lt, hlimit, ne_eq,
    not_not, and_true]

/-- The digest of some bytes is a digest. -/
lemma validDigest_digest (b : List UInt8) : validDigest (digest b) = true := by
  have htake : (digest b).take 7 = "sha256:".toList := rfl
  have hdrop : (digest b).drop 7 = Hex.encode (Sha256.sum256 (b.map UInt8.toNat)) := rfl
  rw [validDigest, htake, hdrop, validHex64, Hex.encode_length, Sha256.sum256_length]
  simp only [decide_true, Bool.true_and, List.all_eq_true]
  intro c hc
  obtain ⟨x, -, hc⟩ := List.mem_flatMap.mp hc
  have hdigit : ∀ n < 16, (('0' ≤ Hex.digit n && Hex.digit n ≤ '9') ||
      ('a' ≤ Hex.digit n && Hex.digit n ≤ 'f')) = true := by decide
  simp only [List.mem_cons, List.not_mem_nil, or_false] at hc
  rcases hc with rfl | rfl
  · exact hdigit _ (Nat.mod_lt _ (by decide))
  · exact hdigit _ (Nat.mod_lt _ (by decide))

/-- **The miner** accepts those that also have one length for a digest. -/
lemma parse_ok {b : List UInt8} {m : Manifest} :
    parse b (digest b) = .ok m ↔ Holds b m ∧ NoRawSpace m ∧ NoFoldedCollision m ∧ OneLength m := by
  simp only [parse, Except.bind_eq_ok, Except.reject_eq_ok, exists_const, validDigest_digest,
    not_or, not_lt, Bool.true_eq_false, not_false_eq_true, true_and]
  unfold decodeCanonical
  constructor
  · rintro ⟨⟨-, hlength, -⟩, h⟩
    cases hdecode : decode b with
    | none => simp [hdecode] at h
    | some m' =>
      simp only [hdecode, Except.bind_eq_ok, Except.reject_eq_ok, exists_const, not_not,
        Except.ok.injEq] at h
      obtain ⟨_, hvalidate, hascii, hcanonical, rfl⟩ := h
      obtain ⟨hrules, hrest⟩ := (validate_ok m').mp hvalidate
      refine ⟨⟨?_, hlength, hrules⟩, hrest⟩
      rw [canonicalBytes, ← hrules.canonicalText.1]
      exact hcanonical.symm
  · rintro ⟨h, hrest⟩
    have hne : b ≠ [] := by
      rw [h.1]
      exact canonicalBytes_ne_nil m
    refine ⟨⟨hne, h.2.1, not_not.mpr rfl⟩, ?_⟩
    simp only [h.decode, Except.bind_eq_ok, Except.reject_eq_ok, exists_const, not_not, and_true,
      h.2.2.canonicalText.1]
    exact ⟨(), (validate_ok m).mpr ⟨h.2.2, hrest⟩, h.2.2.canonicalText.2, h.1.symm⟩

/-! ## One judgement of some bytes -/

/-- The table of the miner answers a path of bytes with the file the table of the validator has for the
text of that path. -/
def SameRoutes (m m' : Manifest) : Prop :=
  ∀ raw file, (newIndex m).routes.lookup raw = some file ↔
    ∃ p, bytes p = raw ∧ (StaticIndex.routes m').lookup p = some file

/-- **Miner and validator accept the same sites**, in some bytes under their own digest: the three parsers
accept them or none does, and if they do they read the same files, fallback and routes. -/
def SameSites (b : List UInt8) : Prop :=
  ((∃ m, parse b (digest b) = .ok m) ↔ ∃ m, StaticIndex.parseManifest b = .ok m) ∧
  ((∃ m, parse b (digest b) = .ok m) ↔
    ∃ m, StaticContracts.parseStaticSiteManifest b (digest b) = .ok m) ∧
  ∀ m m' m'', parse b (digest b) = .ok m → StaticIndex.parseManifest b = .ok m' →
    StaticContracts.parseStaticSiteManifest b (digest b) = .ok m'' →
    m.files = m'.files ∧ m.files = m''.files ∧ m.fallback = m'.fallback ∧ m.fallback = m''.fallback ∧
      SameRoutes m m'

/-- A manifest has the same routes on both sides. -/
lemma sameRoutes_self (m : Manifest) : SameRoutes m m := by
  intro raw file
  constructor
  · intro h
    obtain ⟨before, after, hsplit, -⟩ := List.lookup_eq_some_iff.mp h
    have hmem : (raw, file) ∈ (newIndex m).routes := by
      rw [hsplit]
      exact List.mem_append_right _ List.mem_cons_self
    rw [newIndex_routes] at hmem
    obtain ⟨entry, -, hentry⟩ := List.mem_map.mp hmem
    obtain ⟨rfl, -⟩ := Prod.mk.inj hentry
    exact ⟨entry.1, rfl, by rwa [lookup_routes] at h⟩
  · rintro ⟨p, rfl, h⟩
    rwa [lookup_routes]

/-- On a site that keeps the common rules only, the miner disagrees with the validator. -/
lemma not_sameSites {b : List UInt8} {m : Manifest} (h : Holds b m)
    (hbad : ¬ (NoRawSpace m ∧ NoFoldedCollision m ∧ OneLength m)) : ¬ SameSites b := by
  rintro ⟨hindex, -⟩
  obtain ⟨m', hparse⟩ := hindex.mpr ⟨m, index_parse_ok.mpr h⟩
  obtain ⟨h', hrest⟩ := parse_ok.mp hparse
  exact hbad (h.unique h' ▸ hrest)

/-- **When the three parsers agree.** They agree on some bytes exactly when a site these hold that keeps
the common rules also has no unescaped space in a path, no file that is a directory of another up to case,
and one length for each digest.

**Proof sketch.** The validator accepts by the common rules, the wire contract and the miner by these and
more, so the three agree exactly when the common rules bring the rest along. What they then read is the
manifest the bytes are the canonical form of. -/
theorem sameSites_iff (b : List UInt8) :
    SameSites b ↔ ∀ m, Holds b m → NoRawSpace m ∧ NoFoldedCollision m ∧ OneLength m := by
  constructor
  · intro hsame m h
    by_contra hbad
    exact not_sameSites h hbad hsame
  · intro hall
    refine ⟨⟨?_, ?_⟩, ⟨?_, ?_⟩, ?_⟩
    · rintro ⟨m, hm⟩
      exact ⟨m, index_parse_ok.mpr (parse_ok.mp hm).1⟩
    · rintro ⟨m, hm⟩
      have h := index_parse_ok.mp hm
      exact ⟨m, parse_ok.mpr ⟨h, hall m h⟩⟩
    · rintro ⟨m, hm⟩
      obtain ⟨h, hspace, hfolded, -⟩ := parse_ok.mp hm
      exact ⟨m, contracts_parse_ok.mpr ⟨h, hspace, hfolded⟩⟩
    · rintro ⟨m, hm⟩
      have h := (contracts_parse_ok.mp hm).1
      exact ⟨m, parse_ok.mpr ⟨h, hall m h⟩⟩
    · intro m m' m'' hm hm' hm''
      have h := (parse_ok.mp hm).1
      obtain rfl := h.unique (index_parse_ok.mp hm')
      obtain rfl := h.unique (contracts_parse_ok.mp hm'').1
      exact ⟨rfl, rfl, rfl, rfl, sameRoutes_self m⟩

/-- A site with a file `/A` and a file `/a/b`. -/
def foldedSite : Manifest where
  fallback := none
  files := [⟨List.replicate 64 'a', 1, octetStream, "/A".toList⟩,
    ⟨List.replicate 64 'b', 1, octetStream, "/a/b".toList⟩,
    ⟨List.replicate 64 'c', 5, htmlType, indexPath⟩]
  handler := handlerVersion
  schema := manifestSchema
  schemaVersion := 1

/-- The validator accepts the site, the miner does not: `/A` is a directory of `/a/b` up to case. -/
theorem foldedSite_not_same : ¬ SameSites (canonicalBytes foldedSite) := by
  have hrules : SiteRules foldedSite := (index_validate_ok foldedSite).mp (by decide)
  have hlength : (canonicalBytes foldedSite).length ≤ maxManifestBytes := by decide +kernel
  refine not_sameSites ⟨rfl, hlength, hrules⟩ ?_
  rintro ⟨-, hfolded, -⟩
  refine hfolded _ List.mem_cons_self _ (List.mem_cons_of_mem _ List.mem_cons_self) ?_
  exact ⟨by decide, ['b'], by decide⟩

end Static

end Misscomputer
