import Misscomputer.Lib.Text
import Misscomputer.Lib.Except

set_option relaxedAutoImplicit false
set_option autoImplicit false

/-!
# The paths of a static site

The path grammar of the static-site contract, as its three implementations compute it: the miner's
`pkg/static` over bytes, the validator's `static_index` over characters, and the wire contract's
`static_contracts`, which splits characters and scans the bytes of each segment.

## Main definitions

* `Static.validRequestPath`, `Static.validFilePath` — the miner's two predicates.
* `StaticIndex.validateRequestPath`, `StaticIndex.validateFilePath` — the validator's.
* `StaticContracts.validFilePath` — the wire contract's.

## Main results

* `Static.validRequestPath_bytes` — miner and validator accept the same request paths.
* `Static.validFilePath_bytes` — miner and wire contract accept the same file paths.
* `Static.validateFilePath_ok` — the validator also accepts file paths with an unescaped space, and
  no other.

## References

* `pkg/static/path.go`
* `src/misscomputer_subnet/static_index.py`, `src/misscomputer_subnet/static_contracts.py`
-/

namespace Misscomputer

open Text

/-! ## The miner: `pkg/static` -/

namespace Static

/-- `MaxPathBytes`. -/
def maxPathBytes : ℕ := 1024

/-- `MaxSegmentBytes`. -/
def maxSegmentBytes : ℕ := 255

/-- `MaxDepth`. -/
def maxDepth : ℕ := 32

/-- `literal`: a letter, a digit or one of the bytes of `-._~!$&'()*+,;=:@`. -/
def literal (b : UInt8) : Bool :=
  (0x61 ≤ b && b ≤ 0x7a) || (0x41 ≤ b && b ≤ 0x5a) || (0x30 ≤ b && b ≤ 0x39) ||
    [0x2d, 0x2e, 0x5f, 0x7e, 0x21, 0x24, 0x26, 0x27, 0x28, 0x29, 0x2a, 0x2b, 0x2c, 0x3b, 0x3d, 0x3a,
      0x40].contains b

/-- `upperHex`. -/
def upperHex (b : UInt8) : Bool := (0x30 ≤ b && b ≤ 0x39) || (0x41 ≤ b && b ≤ 0x46)

/-- `unhex`. -/
def unhex (b : UInt8) : UInt8 := if b ≤ 0x39 then b - 0x30 else b - 0x41 + 10

/-- The escaped bytes a segment may not hold. -/
def escapeRefused (decoded : UInt8) : Bool :=
  literal decoded || decoded == 0x2f || decoded == 0x5c || decoded < 0x20 || decoded == 0x7f

/-- The loop of `validRequestSegment`. -/
def scanSegment : List UInt8 → Bool
  | [] => true
  | b :: rest =>
    if b ≠ 0x25 then literal b && scanSegment rest
    else match rest with
      | h :: l :: rest =>
        upperHex h && upperHex l && !escapeRefused (unhex h <<< 4 ||| unhex l) && scanSegment rest
      | _ => false

/-- `validRequestSegment`. -/
def validRequestSegment (segment : List UInt8) : Bool :=
  segment ≠ [] && segment.length ≤ maxSegmentBytes && segment ≠ [0x2e] && segment ≠ [0x2e, 0x2e] &&
    scanSegment segment

/-- The loop of `validFileSegment`: every escape is `%20`. -/
def spaceEscapesOnly : List UInt8 → Bool
  | [] => true
  | b :: rest =>
    if b ≠ 0x25 then spaceEscapesOnly rest
    else match rest with
      | h :: l :: rest => h == 0x32 && l == 0x30 && spaceEscapesOnly rest
      | _ => false

/-- `validFileSegment`. -/
def validFileSegment (segment : List UInt8) : Bool :=
  validRequestSegment segment && spaceEscapesOnly segment

/-- `splitPath`: the segments after the leading slash. -/
def splitPath (raw : List UInt8) : Option (List (List UInt8)) :=
  if raw.head? ≠ some 0x2f ∨ maxPathBytes < raw.length ∨ maxDepth < raw.count 0x2f then none
  else some (raw.tail.splitOn 0x2f)

/-- `ValidFilePath`. -/
def validFilePath (path : List UInt8) : Bool :=
  match splitPath path with
  | none => false
  | some segments => segments.all validFileSegment

/-- The loop of `ValidRequestPath`: only the last segment may be empty. -/
def validSegments : List (List UInt8) → Bool
  | [] => true
  | segment :: rest =>
    ((segment = [] && rest = []) || validRequestSegment segment) && validSegments rest

/-- `ValidRequestPath`. -/
def validRequestPath (raw : List UInt8) : Bool :=
  match splitPath raw with
  | none => false
  | some segments => validSegments segments

end Static

/-! ## The validator: `static_index` -/

namespace StaticIndex

/-- `MAX_PATH_BYTES`. -/
def maxPathBytes : ℕ := 1024

/-- `MAX_SEGMENT_BYTES`. -/
def maxSegmentBytes : ℕ := 255

/-- `MAX_PATH_DEPTH`. -/
def maxPathDepth : ℕ := 32

/-- `_L`. -/
def inL (c : Char) : Bool :=
  c.isAlphanum || ['-', '.', '_', '~', '!', '$', '&', '\x27', '(', ')', '*', '+', ',', ';', '=', ':',
    '@'].contains c

/-- `_UPPER_HEX`. -/
def inUpperHex (c : Char) : Bool := ('0' ≤ c && c ≤ '9') || ('A' ≤ c && c ≤ 'F')

/-- The value of an upper-case hexadecimal digit. -/
def hexDigit (c : Char) : ℕ := if c ≤ '9' then c.toNat - 48 else c.toNat - 55

/-- The limits `_segments` puts on one segment. -/
def checkSegment (segment : List Char) : Except String Unit :=
  if maxSegmentBytes < segment.length then .error "static_path_limits_exceeded"
  else if segment = ['.'] ∨ segment = ['.', '.'] then .error "static_path_dot_segment"
  else .ok ()

/-- `_segments`. -/
def segments (path : List Char) : Except String (List (List Char)) :=
  if path.head? ≠ some '/' ∨ ¬ IsAscii path then .error "static_path_invalid"
  else if maxPathBytes < path.length ∨ maxPathDepth < path.count '/' then
    .error "static_path_limits_exceeded"
  else do
    (path.tail.splitOn '/').forM checkSegment
    .ok (path.tail.splitOn '/')

/-- `segment.replace("%20", " ")`. -/
def unescapeSpaces : List Char → List Char
  | [] => []
  | c :: rest =>
    match c, rest with
    | '%', '2' :: '0' :: rest => ' ' :: unescapeSpaces rest
    | c, rest => c :: unescapeSpaces rest

/-- `validate_file_path`. -/
def validateFilePath (path : List Char) : Except String Unit := do
  let segments ← segments path
  segments.forM fun segment =>
    Except.reject (segment = [] ∨ ¬ (unescapeSpaces segment).all fun c => inL c || c == ' ')
      "static_file_path_invalid"

/-- The escaped bytes a segment may not hold. -/
def escapeRefused (byte : ℕ) : Bool :=
  inL (Char.ofNat byte) || Char.ofNat byte == '/' || Char.ofNat byte == '\\' || byte ≤ 0x1f ||
    byte == 0x7f

/-- The inner loop of `validate_request_path`. -/
def scanRequest : List Char → Except String Unit
  | [] => .ok ()
  | c :: rest =>
    if c = '%' then
      match rest with
      | h :: l :: rest =>
        if ¬ (inUpperHex h ∧ inUpperHex l) then .error "static_path_encoding_invalid"
        else if escapeRefused (16 * hexDigit h + hexDigit l) then
          .error "static_path_encoding_invalid"
        else scanRequest rest
      | _ => .error "static_path_encoding_invalid"
    else if ¬ inL c then .error "static_path_invalid"
    else scanRequest rest

/-- The outer loop of `validate_request_path`. -/
def scanSegments : List (List Char) → Except String Unit
  | [] => .ok ()
  | segment :: rest => do
    Except.reject (segment = [] ∧ rest ≠ []) "static_path_empty_segment"
    scanRequest segment
    scanSegments rest

/-- `validate_request_path`. -/
def validateRequestPath (path : List Char) : Except String Unit := do
  let segments ← segments path
  scanSegments segments

end StaticIndex

/-! ## The wire contract: `static_contracts` -/

namespace StaticContracts

/-- `_valid_request_segment`. Its loop over the encoded segment is the miner's: `_LITERAL` and
`_UPPER_HEX` hold the bytes of the miner's classes, and the same escaped bytes are refused. -/
def validRequestSegment (segment : List Char) : Bool :=
  segment ≠ [] && segment.length ≤ 255 && segment ≠ ['.'] && segment ≠ ['.', '.'] &&
    IsAscii segment && Static.scanSegment (segment.map Char.toUInt8)

/-- `_split_path`. -/
def splitPath (raw : List Char) : Option (List (List Char)) :=
  if raw.head? ≠ some '/' ∨ 1024 < raw.length ∨ 32 < raw.count '/' then none
  else some (raw.tail.splitOn '/')

/-- `segment.replace("%20", "")`. -/
def dropSpaceEscapes : List Char → List Char
  | [] => []
  | c :: rest =>
    match c, rest with
    | '%', '2' :: '0' :: rest => dropSpaceEscapes rest
    | c, rest => c :: dropSpaceEscapes rest

/-- `valid_file_path`. -/
def validFilePath (path : List Char) : Bool :=
  match splitPath path with
  | none => false
  | some segments =>
    segments.all fun segment => validRequestSegment segment && !(dropSpaceEscapes segment).contains '%'

end StaticContracts

/-! ## Characters and bytes -/

namespace Static

lemma literal_toUInt8 {c : Char} (hc : c.toNat < 128) : literal c.toUInt8 = StaticIndex.inL c :=
  forall_ascii (P := fun c => literal c.toUInt8 = StaticIndex.inL c) (by decide) c hc

lemma upperHex_toUInt8 {c : Char} (hc : c.toNat < 128) :
    upperHex c.toUInt8 = StaticIndex.inUpperHex c :=
  forall_ascii (P := fun c => upperHex c.toUInt8 = StaticIndex.inUpperHex c) (by decide) c hc

lemma unhex_toUInt8 {c : Char} (hc : c.toNat < 128) (hhex : StaticIndex.inUpperHex c = true) :
    (unhex c.toUInt8).toNat = StaticIndex.hexDigit c ∧ StaticIndex.hexDigit c < 16 :=
  forall_ascii (P := fun c => StaticIndex.inUpperHex c = true →
    (unhex c.toUInt8).toNat = StaticIndex.hexDigit c ∧ StaticIndex.hexDigit c < 16) (by decide) c hc hhex

/-- The two readings of an escape decode to the same byte and judge it the same. -/
lemma escapeRefused_eq : ∀ h < 16, ∀ l < 16,
    escapeRefused (UInt8.ofNat h <<< 4 ||| UInt8.ofNat l) = StaticIndex.escapeRefused (16 * h + l) := by
  decide

/-- The two readings of an escape agree. -/
lemma escape_toUInt8 {h l : Char} (hh : h.toNat < 128) (hl : l.toNat < 128) :
    (upperHex h.toUInt8 && upperHex l.toUInt8 &&
        !escapeRefused (unhex h.toUInt8 <<< 4 ||| unhex l.toUInt8)) =
      (StaticIndex.inUpperHex h && StaticIndex.inUpperHex l &&
        !StaticIndex.escapeRefused (16 * StaticIndex.hexDigit h + StaticIndex.hexDigit l)) := by
  rw [upperHex_toUInt8 hh, upperHex_toUInt8 hl]
  cases hhex : StaticIndex.inUpperHex h with
  | false => simp only [Bool.false_and]
  | true =>
    cases lhex : StaticIndex.inUpperHex l with
    | false => simp only [Bool.false_and, Bool.and_false]
    | true =>
      obtain ⟨hval, hlt⟩ := unhex_toUInt8 hh hhex
      obtain ⟨lval, llt⟩ := unhex_toUInt8 hl lhex
      rw [← escapeRefused_eq _ hlt _ llt, ← hval, ← lval, UInt8.ofNat_toNat, UInt8.ofNat_toNat]

lemma scanSegment_literal {b : UInt8} {rest : List UInt8} (hb : b ≠ 0x25) :
    scanSegment (b :: rest) = (literal b && scanSegment rest) := by
  rw [scanSegment.eq_def]
  simp only [ne_eq, hb, not_false_eq_true, if_true]

/-- **The two scans of a segment agree.**

**Proof sketch.** Induction along the validator's scan. A character outside an escape is judged by its
class, which is the class of its byte; an escape by its two digits and by the byte they decode to. -/
lemma scanSegment_map {s : List Char} (hs : IsAscii s) :
    scanSegment (s.map Char.toUInt8) = true ↔ StaticIndex.scanRequest s = .ok () := by
  have hpercent : ('%').toUInt8 = 0x25 := rfl
  induction s using StaticIndex.scanRequest.induct with
  | case1 => simp [scanSegment, StaticIndex.scanRequest]
  | case2 h l rest hhex =>
    simp only [isAscii_cons] at hs
    have hescape := escape_toUInt8 hs.2.1 hs.2.2.1
    simp only [List.map_cons, scanSegment, StaticIndex.scanRequest, hpercent, hescape]
    simp_all
  | case3 h l rest hhex hrefused =>
    simp only [isAscii_cons] at hs
    have hescape := escape_toUInt8 hs.2.1 hs.2.2.1
    simp only [List.map_cons, scanSegment, StaticIndex.scanRequest, hpercent, hescape]
    simp_all
  | case4 h l rest hhex hok ih =>
    simp only [isAscii_cons] at hs
    have hescape := escape_toUInt8 hs.2.1 hs.2.2.1
    simp only [List.map_cons, scanSegment, StaticIndex.scanRequest, hpercent, hescape]
    simp_all
  | case5 rest hshort =>
    -- fewer than two characters follow the percent sign
    rcases rest with _ | ⟨a, _ | ⟨b, rest⟩⟩
    · simp [scanSegment, StaticIndex.scanRequest, hpercent]
    · simp [scanSegment, StaticIndex.scanRequest, hpercent]
    · exact absurd rfl (hshort a b rest)
  | case6 c rest hpct hL =>
    simp only [isAscii_cons] at hs
    have hne : c.toUInt8 ≠ 0x25 := fun h => hpct (toUInt8_inj hs.1 (by decide) (h.trans hpercent.symm))
    rw [List.map_cons, scanSegment_literal hne, literal_toUInt8 hs.1, StaticIndex.scanRequest.eq_def]
    simp_all
  | case7 c rest hpct hL ih =>
    simp only [isAscii_cons] at hs
    have hne : c.toUInt8 ≠ 0x25 := fun h => hpct (toUInt8_inj hs.1 (by decide) (h.trans hpercent.symm))
    rw [List.map_cons, scanSegment_literal hne, literal_toUInt8 hs.1, StaticIndex.scanRequest.eq_def]
    simp_all

/-! ## Bytes outside ASCII -/

lemma not_literal_of_high {b : UInt8} (hb : 128 ≤ b.toNat) : literal b = false ∧ upperHex b = false := by
  have hall : ∀ n < 256, 128 ≤ n → literal (UInt8.ofNat n) = false ∧ upperHex (UInt8.ofNat n) = false := by
    decide +kernel
  have := hall b.toNat b.toNat_lt hb
  rwa [UInt8.ofNat_toNat] at this

/-- A segment with a byte outside ASCII is refused. -/
lemma scanSegment_of_high {s : List UInt8} {b : UInt8} (hb : b ∈ s) (hhigh : 128 ≤ b.toNat) :
    scanSegment s = false := by
  obtain ⟨hlit, hhex⟩ := not_literal_of_high hhigh
  have hpercent : b ≠ 0x25 := by
    rintro rfl
    exact absurd hhigh (by decide)
  induction s using scanSegment.induct with
  | case1 => cases hb
  | case2 c rest hne ih =>
    rw [scanSegment_literal hne]
    rcases List.mem_cons.mp hb with rfl | hb
    · rw [hlit, Bool.false_and]
    · rw [ih hb, Bool.and_false]
  | case3 c hc h l rest ih =>
    simp only [scanSegment, hc, if_false]
    simp only [List.mem_cons] at hb
    rcases hb with rfl | rfl | rfl | hb
    · exact absurd (not_not.mp hc) hpercent
    · simp [hhex]
    · simp [hhex]
    · simp [ih hb]
  | case4 c rest hc hshort =>
    rw [scanSegment.eq_def]
    rcases rest with _ | ⟨h, _ | ⟨l, rest⟩⟩
    · simp [hc]
    · simp [hc]
    · exact absurd rfl (hshort h l rest)

/-! ## Segments -/

lemma map_toUInt8_inj {s t : List Char} (hs : IsAscii s) (ht : IsAscii t) :
    s.map Char.toUInt8 = t.map Char.toUInt8 ↔ s = t := by
  refine ⟨fun h => ?_, fun h => by rw [h]⟩
  rw [← bytes_eq_map hs, ← bytes_eq_map ht] at h
  exact bytes_inj.mp h

/-- A request segment of the miner is a non-empty one within the validator's limits whose scan
succeeds. -/
lemma validRequestSegment_map {s : List Char} (hs : IsAscii s) :
    validRequestSegment (s.map Char.toUInt8) = true ↔
      s ≠ [] ∧ StaticIndex.checkSegment s = .ok () ∧ StaticIndex.scanRequest s = .ok () := by
  have hdot : s.map Char.toUInt8 = [0x2e] ↔ s = ['.'] := map_toUInt8_inj hs (t := ['.']) (by decide)
  have hdots : s.map Char.toUInt8 = [0x2e, 0x2e] ↔ s = ['.', '.'] :=
    map_toUInt8_inj hs (t := ['.', '.']) (by decide)
  have hcheck : StaticIndex.checkSegment s = .ok () ↔
      s.length ≤ maxSegmentBytes ∧ s ≠ ['.'] ∧ s ≠ ['.', '.'] := by
    unfold StaticIndex.checkSegment
    have : StaticIndex.maxSegmentBytes = maxSegmentBytes := rfl
    grind
  rw [hcheck, ← scanSegment_map hs]
  unfold validRequestSegment
  simp only [Bool.and_eq_true, decide_eq_true_eq, List.map_eq_nil_iff, List.length_map, ne_eq, hdot,
    hdots]
  tauto

/-- The segment loops of the two request predicates agree. -/
lemma validSegments_map {segments : List (List Char)} (hascii : ∀ s ∈ segments, IsAscii s) :
    validSegments (segments.map (List.map Char.toUInt8)) = true ↔
      (∀ s ∈ segments, StaticIndex.checkSegment s = .ok ()) ∧
        StaticIndex.scanSegments segments = .ok () := by
  induction segments with
  | nil => simp [validSegments, StaticIndex.scanSegments]
  | cons s segments ih =>
    have ih := ih fun t ht => hascii t (List.mem_cons_of_mem _ ht)
    have hs := hascii s List.mem_cons_self
    have hempty : StaticIndex.checkSegment [] = .ok () := by decide
    simp only [List.map_cons, validSegments, Bool.and_eq_true, Bool.or_eq_true, decide_eq_true_eq,
      List.map_eq_nil_iff, validRequestSegment_map hs, ih, StaticIndex.scanSegments, Except.bind_eq_ok,
      Except.reject_eq_ok, List.forall_mem_cons, exists_const, not_and, not_not]
    constructor
    · rintro ⟨⟨rfl, rfl⟩ | ⟨hne, hcheck, hscan⟩, hall, hrest⟩
      · exact ⟨⟨hempty, hall⟩, fun _ => rfl, (), rfl, hrest⟩
      · exact ⟨⟨hcheck, hall⟩, fun h => absurd h hne, (), hscan, hrest⟩
    · rintro ⟨⟨hcheck, hall⟩, hlast, _, hscan, hrest⟩
      refine ⟨?_, hall, hrest⟩
      by_cases hs : s = []
      · exact .inl ⟨hs, hlast hs⟩
      · exact .inr ⟨hs, hcheck, hscan⟩

/-! ## Whole paths -/

/-- The miner's segments of an ASCII path are the validator's. -/
lemma splitPath_map {p : List Char} (hp : IsAscii p) :
    splitPath (p.map Char.toUInt8) =
      (StaticContracts.splitPath p).map (List.map (List.map Char.toUInt8)) := by
  have hslash : ('/').toUInt8 = 0x2f := rfl
  have hapart : ∀ c ∈ p, c.toUInt8 = ('/').toUInt8 → c = '/' := fun c hc h =>
    toUInt8_inj (hp c hc) (by decide) h
  have hhead : (p.map Char.toUInt8).head? = some 0x2f ↔ p.head? = some '/' := by
    rw [List.head?_map, Option.map_eq_some_iff]
    constructor
    · rintro ⟨c, hc, h⟩
      rw [hc, hapart c (List.mem_of_mem_head? hc) h]
    · intro h
      exact ⟨'/', h, rfl⟩
  unfold splitPath StaticContracts.splitPath
  rw [← hslash, count_map hapart, List.length_map, ← List.map_tail,
    splitOn_map fun c hc => hapart c (List.mem_of_mem_tail hc), hslash]
  simp only [ne_eq, hhead, maxPathBytes, maxDepth]
  split <;> rfl

/-- A path with a byte outside ASCII has it in one of its segments. -/
lemma exists_high_segment {p : List UInt8} {segments : List (List UInt8)} {b : UInt8}
    (hsplit : splitPath p = some segments) (hb : b ∈ p) (hhigh : 128 ≤ b.toNat) :
    ∃ segment ∈ segments, b ∈ segment := by
  have hslash : b ≠ 0x2f := by
    rintro rfl
    exact absurd hhigh (by decide)
  unfold splitPath at hsplit
  split at hsplit
  · cases hsplit
  · rename_i hhead
    obtain rfl := Option.some.inj hsplit
    simp only [not_or, not_not] at hhead
    have htail : b ∈ p.tail := by
      rcases p with _ | ⟨c, p⟩
      · cases hb
      · have hc : c = 0x2f := by simpa using hhead.1
        exact (List.mem_cons.mp hb).resolve_left (by rw [hc]; exact hslash)
    exact exists_mem_splitOn htail hslash

lemma validRequestSegment_of_high {s : List UInt8} {b : UInt8} (hb : b ∈ s) (hhigh : 128 ≤ b.toNat) :
    validRequestSegment s = false := by
  rw [validRequestSegment, scanSegment_of_high hb hhigh, Bool.and_false]

lemma validRequestPath_of_high {p : List UInt8} {b : UInt8} (hb : b ∈ p) (hhigh : 128 ≤ b.toNat) :
    validRequestPath p = false := by
  unfold validRequestPath
  cases hsplit : splitPath p with
  | none => rfl
  | some segments =>
    obtain ⟨segment, hsegment, hmem⟩ := exists_high_segment hsplit hb hhigh
    dsimp only
    clear hsplit
    induction segments with
    | nil => cases hsegment
    | cons s segments ih =>
      rcases List.mem_cons.mp hsegment with rfl | hsegment
      · have hne : segment ≠ [] := List.ne_nil_of_mem hmem
        simp [validSegments, hne, validRequestSegment_of_high hmem hhigh]
      · rw [validSegments, ih hsegment, Bool.and_false]

lemma validFilePath_of_high {p : List UInt8} {b : UInt8} (hb : b ∈ p) (hhigh : 128 ≤ b.toNat) :
    validFilePath p = false := by
  unfold validFilePath
  cases hsplit : splitPath p with
  | none => rfl
  | some segments =>
    obtain ⟨segment, hsegment, hmem⟩ := exists_high_segment hsplit hb hhigh
    refine List.all_eq_false.mpr ⟨segment, hsegment, ?_⟩
    simp [validFileSegment, validRequestSegment_of_high hmem hhigh]

/-- The segments the validator reads. -/
lemma segments_eq_ok {p : List Char} {segments : List (List Char)} :
    StaticIndex.segments p = .ok segments ↔
      IsAscii p ∧ StaticContracts.splitPath p = some segments ∧
        ∀ s ∈ segments, StaticIndex.checkSegment s = .ok () := by
  unfold StaticIndex.segments StaticContracts.splitPath
  have hbytes : StaticIndex.maxPathBytes = 1024 := rfl
  have hdepth : StaticIndex.maxPathDepth = 32 := rfl
  rw [hbytes, hdepth]
  by_cases hhead : p.head? = some '/'
  · by_cases hascii : IsAscii p
    · by_cases hlimits : 1024 < p.length ∨ 32 < p.count '/'
      · simp [hhead, hascii, hlimits]
      · simp only [hhead, hascii, hlimits, ne_eq, not_true_eq_false, or_self, if_false,
          Except.bind_eq_ok, true_and, Option.some.injEq]
        constructor
        · rintro ⟨_, hcheck, hsegments⟩
          obtain rfl := Except.ok.inj hsegments
          exact ⟨rfl, Except.forM_eq_ok.mp hcheck⟩
        · rintro ⟨rfl, hcheck⟩
          exact ⟨(), Except.forM_eq_ok.mpr hcheck, rfl⟩
    · simp [hascii]
  · simp [hhead]

/-- The segments of an ASCII path are ASCII. -/
lemma isAscii_segment {p s : List Char} {segments : List (List Char)} (hp : IsAscii p)
    (hsplit : StaticContracts.splitPath p = some segments) (hs : s ∈ segments) : IsAscii s := by
  unfold StaticContracts.splitPath at hsplit
  split at hsplit
  · cases hsplit
  · obtain rfl := Option.some.inj hsplit
    exact fun c hc => hp c (List.mem_of_mem_tail (mem_of_mem_splitOn hs hc))

/-- **Miner and validator accept the same request paths.** -/
theorem validRequestPath_bytes (p : List Char) :
    validRequestPath (bytes p) = true ↔ StaticIndex.validateRequestPath p = .ok () := by
  unfold StaticIndex.validateRequestPath
  simp only [Except.bind_eq_ok, segments_eq_ok]
  by_cases hp : IsAscii p
  · rw [bytes_eq_map hp, validRequestPath, splitPath_map hp]
    cases hsplit : StaticContracts.splitPath p with
    | none => simp
    | some segments =>
      simp only [Option.map_some,
        validSegments_map fun s hs => isAscii_segment hp hsplit hs, Option.some.injEq]
      constructor
      · rintro ⟨hcheck, hscan⟩
        exact ⟨segments, ⟨hp, rfl, hcheck⟩, hscan⟩
      · rintro ⟨_, ⟨_, rfl, hcheck⟩, hscan⟩
        exact ⟨hcheck, hscan⟩
  · obtain ⟨b, hb, hhigh⟩ := exists_high_byte hp
    rw [validRequestPath_of_high hb hhigh]
    simp [hp]

/-! ## File paths -/

/-- `rest` does not continue a `%20`. -/
def NoSpaceEscape (c : Char) (rest : List Char) : Prop :=
  ∀ rest', c = '%' → rest = '2' :: '0' :: rest' → False

lemma unescapeSpaces_cons {c : Char} {rest : List Char} (hc : NoSpaceEscape c rest) :
    StaticIndex.unescapeSpaces (c :: rest) = c :: StaticIndex.unescapeSpaces rest := by
  rw [StaticIndex.unescapeSpaces.eq_def]
  dsimp only
  split
  · exact absurd rfl (hc _ rfl)
  · rfl

lemma dropSpaceEscapes_cons {c : Char} {rest : List Char} (hc : NoSpaceEscape c rest) :
    StaticContracts.dropSpaceEscapes (c :: rest) = c :: StaticContracts.dropSpaceEscapes rest := by
  rw [StaticContracts.dropSpaceEscapes.eq_def]
  dsimp only
  split
  · exact absurd rfl (hc _ rfl)
  · rfl

lemma spaceEscapesOnly_literal {b : UInt8} {rest : List UInt8} (hb : b ≠ 0x25) :
    spaceEscapesOnly (b :: rest) = spaceEscapesOnly rest := by
  rw [spaceEscapesOnly.eq_def]
  simp only [ne_eq, hb, not_false_eq_true, if_true]

/-- A percent sign without `20` behind it ends the miner's loop. -/
lemma spaceEscapesOnly_percent {rest : List Char} (hs : IsAscii rest) (hc : NoSpaceEscape '%' rest) :
    spaceEscapesOnly (0x25 :: rest.map Char.toUInt8) = false := by
  rcases rest with _ | ⟨h, _ | ⟨l, rest⟩⟩
  · rfl
  · simp [spaceEscapesOnly]
  · simp only [isAscii_cons] at hs
    have hne : ¬ (h.toUInt8 = 0x32 ∧ l.toUInt8 = 0x30) := by
      rintro ⟨hh, hl⟩
      have hh : h = '2' := toUInt8_inj hs.1 (by decide) hh
      have hl : l = '0' := toUInt8_inj hs.2.1 (by decide) hl
      exact hc rest rfl (by rw [hh, hl])
    simp only [List.map_cons, spaceEscapesOnly, ne_eq, not_true_eq_false, if_false]
    by_cases hh : h.toUInt8 = 0x32
    · have hl : l.toUInt8 ≠ 0x30 := fun hl => hne ⟨hh, hl⟩
      simp [hl]
    · simp [hh]

/-- The wire contract's test for other escapes is the miner's loop. -/
lemma spaceEscapesOnly_map {s : List Char} (hs : IsAscii s) :
    spaceEscapesOnly (s.map Char.toUInt8) = !(StaticContracts.dropSpaceEscapes s).contains '%' := by
  have hpercent : ('%').toUInt8 = 0x25 := rfl
  induction s using StaticContracts.dropSpaceEscapes.induct with
  | case1 => simp [spaceEscapesOnly, StaticContracts.dropSpaceEscapes]
  | case2 rest ih =>
    simp only [isAscii_cons] at hs
    exact ih hs.2.2.2
  | case3 c rest hother ih =>
    simp only [isAscii_cons] at hs
    rw [dropSpaceEscapes_cons hother, List.map_cons, List.contains_cons]
    by_cases hc : c = '%'
    · obtain rfl := hc
      rw [hpercent, spaceEscapesOnly_percent hs.2 hother]
      rfl
    · have hne : c.toUInt8 ≠ 0x25 := fun h => hc (toUInt8_inj hs.1 (by decide) (h.trans hpercent.symm))
      rw [spaceEscapesOnly_literal hne, ih hs.2]
      simp [Ne.symm hc]

/-- The characters of a file segment the miner accepts are those the validator accepts, less the
unescaped space. -/
lemma scanFile_map {s : List Char} (hs : IsAscii s) :
    (scanSegment (s.map Char.toUInt8) && spaceEscapesOnly (s.map Char.toUInt8)) = true ↔
      ((StaticIndex.unescapeSpaces s).all fun c => StaticIndex.inL c || c == ' ') = true ∧ ' ' ∉ s := by
  have hpercent : ('%').toUInt8 = 0x25 := rfl
  induction s using StaticIndex.unescapeSpaces.induct with
  | case1 => simp [scanSegment, spaceEscapesOnly, StaticIndex.unescapeSpaces]
  | case2 rest ih =>
    simp only [isAscii_cons] at hs
    have hscan : scanSegment (('%' :: '2' :: '0' :: rest).map Char.toUInt8) =
        scanSegment (rest.map Char.toUInt8) := by
      have : escapeRefused (unhex 0x32 <<< 4 ||| unhex 0x30) = false := by decide
      change (upperHex 0x32 && upperHex 0x30 && !escapeRefused (unhex 0x32 <<< 4 ||| unhex 0x30) &&
        scanSegment (rest.map Char.toUInt8)) = _
      rw [this]
      rfl
    have hspace : spaceEscapesOnly (('%' :: '2' :: '0' :: rest).map Char.toUInt8) =
        spaceEscapesOnly (rest.map Char.toUInt8) := rfl
    have hunescape : StaticIndex.unescapeSpaces ('%' :: '2' :: '0' :: rest) =
        ' ' :: StaticIndex.unescapeSpaces rest := rfl
    have ih : _ ↔ _ := ih hs.2.2.2
    rw [hscan, hspace, ih, hunescape]
    simp
  | case3 c rest hother ih =>
    simp only [isAscii_cons] at hs
    have ih : _ ↔ _ := ih hs.2
    rw [unescapeSpaces_cons hother, List.map_cons]
    by_cases hc : c = '%'
    · obtain rfl := hc
      rw [hpercent, spaceEscapesOnly_percent hs.2 hother, Bool.and_false]
      have : StaticIndex.inL '%' = false := by decide
      simp [this]
    · have hne : c.toUInt8 ≠ 0x25 := fun h => hc (toUInt8_inj hs.1 (by decide) (h.trans hpercent.symm))
      rw [scanSegment_literal hne, spaceEscapesOnly_literal hne, literal_toUInt8 hs.1, Bool.and_assoc,
        Bool.and_eq_true, ih, List.all_cons]
      have hspace : StaticIndex.inL ' ' = false := by decide
      by_cases hsp : c = ' '
      · obtain rfl := hsp
        simp [hspace]
      · simp [hsp, Ne.symm hsp, and_assoc]

/-- A file segment of the miner is one the validator accepts, with no unescaped space. -/
lemma validFileSegment_map {s : List Char} (hs : IsAscii s) :
    validFileSegment (s.map Char.toUInt8) = true ↔
      StaticIndex.checkSegment s = .ok () ∧
        ¬ (s = [] ∨ ¬ (StaticIndex.unescapeSpaces s).all fun c => StaticIndex.inL c || c == ' ') ∧
        ' ' ∉ s := by
  have hscan : _ ↔ _ := scanFile_map hs
  rw [Bool.and_eq_true, scanSegment_map hs] at hscan
  rw [validFileSegment, Bool.and_eq_true, validRequestSegment_map hs]
  tauto

/-- The letters of a path other than its slashes are in its segments. -/
lemma mem_segment {p : List Char} {segments : List (List Char)} {c : Char}
    (hsplit : StaticContracts.splitPath p = some segments) (hc : c ≠ '/') :
    c ∈ p ↔ ∃ s ∈ segments, c ∈ s := by
  unfold StaticContracts.splitPath at hsplit
  split at hsplit
  · cases hsplit
  · rename_i hhead
    obtain rfl := Option.some.inj hsplit
    simp only [not_or, not_not] at hhead
    constructor
    · intro hmem
      refine exists_mem_splitOn ?_ hc
      rcases p with _ | ⟨d, p⟩
      · cases hmem
      · have hd : d = '/' := by simpa using hhead.1
        exact (List.mem_cons.mp hmem).resolve_left (by rw [hd]; exact hc)
    · rintro ⟨s, hs, hmem⟩
      exact List.mem_of_mem_tail (mem_of_mem_splitOn hs hmem)

/-- A path that is not ASCII has a segment that is not. -/
lemma exists_segment_not_ascii {p : List Char} {segments : List (List Char)} (hp : ¬ IsAscii p)
    (hsplit : StaticContracts.splitPath p = some segments) : ∃ s ∈ segments, ¬ IsAscii s := by
  simp only [IsAscii, not_forall] at hp
  obtain ⟨c, hc, hlarge⟩ := hp
  have hslash : c ≠ '/' := by
    rintro rfl
    exact hlarge (by decide)
  obtain ⟨s, hs, hmem⟩ := (mem_segment hsplit hslash).mp hc
  exact ⟨s, hs, fun hascii => hlarge (hascii c hmem)⟩

/-- **Miner and wire contract accept the same file paths.** -/
theorem validFilePath_bytes (p : List Char) :
    validFilePath (bytes p) = StaticContracts.validFilePath p := by
  by_cases hp : IsAscii p
  · rw [bytes_eq_map hp, validFilePath, StaticContracts.validFilePath, splitPath_map hp]
    cases hsplit : StaticContracts.splitPath p with
    | none => rfl
    | some segments =>
      simp only [Option.map_some, List.all_map]
      rw [Bool.eq_iff_iff, List.all_eq_true, List.all_eq_true]
      refine forall₂_congr fun s hs => ?_
      have hs := isAscii_segment hp hsplit hs
      have hdot : s.map Char.toUInt8 = [0x2e] ↔ s = ['.'] := map_toUInt8_inj hs (t := ['.']) (by decide)
      have hdots : s.map Char.toUInt8 = [0x2e, 0x2e] ↔ s = ['.', '.'] :=
        map_toUInt8_inj hs (t := ['.', '.']) (by decide)
      rw [Function.comp_apply, validFileSegment, spaceEscapesOnly_map hs, validRequestSegment,
        StaticContracts.validRequestSegment]
      simp only [hs, hdot, hdots, List.map_eq_nil_iff, List.length_map, ne_eq, decide_true,
        Bool.and_true, maxSegmentBytes]
  · obtain ⟨b, hb, hhigh⟩ := exists_high_byte hp
    rw [validFilePath_of_high hb hhigh, StaticContracts.validFilePath]
    cases hsplit : StaticContracts.splitPath p with
    | none => rfl
    | some segments =>
      obtain ⟨s, hs, hhigh⟩ := exists_segment_not_ascii hp hsplit
      refine (List.all_eq_false.mpr ⟨s, hs, ?_⟩).symm
      simp [StaticContracts.validRequestSegment, hhigh]

/-- **What the validator accepts as a file path** is what the miner accepts, and such a path with
unescaped spaces in it. -/
theorem validateFilePath_ok (p : List Char) :
    validFilePath (bytes p) = true ↔ StaticIndex.validateFilePath p = .ok () ∧ ' ' ∉ p := by
  unfold StaticIndex.validateFilePath
  simp only [Except.bind_eq_ok, segments_eq_ok]
  by_cases hp : IsAscii p
  · rw [bytes_eq_map hp, validFilePath, splitPath_map hp]
    cases hsplit : StaticContracts.splitPath p with
    | none => simp
    | some segments =>
      have hfile : ∀ s ∈ segments, validFileSegment (s.map Char.toUInt8) = true ↔
          StaticIndex.checkSegment s = .ok () ∧
            ¬ (s = [] ∨ ¬ (StaticIndex.unescapeSpaces s).all fun c => StaticIndex.inL c || c == ' ') ∧
            ' ' ∉ s :=
        fun s hs => validFileSegment_map (isAscii_segment hp hsplit hs)
      have hspace : ' ' ∈ p ↔ ∃ s ∈ segments, ' ' ∈ s := mem_segment hsplit (by decide)
      have hall : (segments.map (List.map Char.toUInt8)).all validFileSegment = true ↔
          ∀ s ∈ segments, validFileSegment (s.map Char.toUInt8) = true := by
        rw [List.all_map, List.all_eq_true]
        rfl
      simp only [Option.map_some, hall, Option.some.injEq, Except.forM_eq_ok, Except.reject_eq_ok, hspace]
      constructor
      · intro h
        refine ⟨⟨segments, ⟨hp, rfl, fun s hs => ((hfile s hs).mp (h s hs)).1⟩, fun s hs => ?_⟩, ?_⟩
        · exact ((hfile s hs).mp (h s hs)).2.1
        · rintro ⟨s, hs, hmem⟩
          exact ((hfile s hs).mp (h s hs)).2.2 hmem
      · rintro ⟨⟨_, ⟨_, rfl, hcheck⟩, hall⟩, hno⟩ s hs
        exact (hfile s hs).mpr ⟨hcheck s hs, hall s hs, fun hmem => hno ⟨s, hs, hmem⟩⟩
  · obtain ⟨b, hb, hhigh⟩ := exists_high_byte hp
    rw [validFilePath_of_high hb hhigh]
    simp [hp]

end Static

end Misscomputer
