import Misscomputer.Probe.Plans
import Misscomputer.Static.Evidence

set_option relaxedAutoImplicit false
set_option autoImplicit false

/-!
# The targets of hidden probes

A hidden probe asks for a route of the site or for a path the validator makes up. A made-up path is always one
the validator accepts. A route is, unless its file has an unescaped space in its path: the check of file
paths lets it pass, the check of request paths does not.

## Main definitions

* `Probe.SpacedRoute` — the route of a selector has an unescaped space.
* `Probe.Asks` — what a planned probe asks for is expected of the site.

## Main results

* `StaticIndex.validateRequestPath_of_file` — file paths without a space, and their directories, are request
  paths.
* `Probe.planned_eq_ok` — which records `_planned` makes.
* `Probe.hiddenChoice_planned` — a selector leads to a record exactly when its route has no space.

## References

* `src/misscomputer_subnet/static_probe.py` (`_hidden_choice`, `_synthetic_path`, `_planned`)
* `src/misscomputer_subnet/static_index.py` (`validate_file_path`, `validate_request_path`, `_routes`)
-/

namespace Misscomputer

open Text (IsAscii afterLast)

/-! ## File paths and request paths -/

namespace StaticIndex

open Static (File Manifest lastSegment indexName)

/-- A segment of a file path. -/
def IsFileSegment (s : List Char) : Prop :=
  checkSegment s = .ok () ∧ s ≠ [] ∧ ((unescapeSpaces s).all fun c => inL c || c == ' ') = true

lemma validateFilePath_iff {p : List Char} : validateFilePath p = .ok () ↔
    IsAscii p ∧ p.head? = some '/' ∧ p.length ≤ 1024 ∧ p.count '/' ≤ 32 ∧ ∀ s ∈ p.tail.splitOn '/', IsFileSegment s := by
  unfold validateFilePath
  simp only [Except.bind_eq_ok, Static.segments_eq_ok, Except.forM_eq_ok, Except.reject_eq_ok,
    StaticContracts.splitPath, IsFileSegment]
  by_cases hshape : p.head? ≠ some '/' ∨ 1024 < p.length ∨ 32 < p.count '/'
  · simp only [if_pos hshape, reduceCtorEq, false_and, and_false, exists_false, false_iff, not_and]
    intro _ hhead hlength hcount
    rcases hshape with h | h | h
    · exact absurd hhead h
    · omega
    · omega
  · rw [if_neg hshape]
    simp only [not_or, not_not, not_lt] at hshape
    simp only [Option.some.injEq, hshape, true_and]
    constructor
    · rintro ⟨_, ⟨hascii, rfl, hcheck⟩, hfile⟩
      refine ⟨hascii, fun s hs => ⟨hcheck s hs, ?_⟩⟩
      exact (not_or.mp (hfile s hs)).imp id not_not.mp
    · rintro ⟨hascii, hall⟩
      refine ⟨_, ⟨hascii, rfl, fun s hs => (hall s hs).1⟩, fun s hs => ?_⟩
      exact not_or.mpr ((hall s hs).2.imp id not_not.mpr)

lemma validateRequestPath_iff {p : List Char} : validateRequestPath p = .ok () ↔
    IsAscii p ∧ p.head? = some '/' ∧ p.length ≤ 1024 ∧ p.count '/' ≤ 32 ∧
      (∀ s ∈ p.tail.splitOn '/', checkSegment s = .ok ()) ∧ scanSegments (p.tail.splitOn '/') = .ok () := by
  unfold validateRequestPath
  simp only [Except.bind_eq_ok, Static.segments_eq_ok, StaticContracts.splitPath]
  by_cases hshape : p.head? ≠ some '/' ∨ 1024 < p.length ∨ 32 < p.count '/'
  · simp only [if_pos hshape, reduceCtorEq, false_and, and_false, exists_false, false_iff, not_and]
    intro _ hhead hlength hcount
    rcases hshape with h | h | h
    · exact absurd hhead h
    · omega
    · omega
  · rw [if_neg hshape]
    simp only [not_or, not_not, not_lt] at hshape
    simp only [Option.some.injEq, hshape, true_and]
    constructor
    · rintro ⟨_, ⟨hascii, rfl, hcheck⟩, hscan⟩
      exact ⟨hascii, hcheck, hscan⟩
    · rintro ⟨hascii, hcheck, hscan⟩
      exact ⟨_, ⟨hascii, rfl, hcheck⟩, hscan⟩

lemma scanRequest_of_file {s : List Char} (hascii : IsAscii s) (hspace : ' ' ∉ s) (hs : IsFileSegment s) :
    scanRequest s = .ok () := by
  have hscan := (Static.scanFile_map hascii).mpr ⟨hs.2.2, hspace⟩
  rw [Bool.and_eq_true] at hscan
  exact (Static.scanSegment_map hascii).mp hscan.1

/-- Only the last segment may be empty. -/
lemma scanSegments_eq_ok {segments : List (List Char)} (h : ∀ s ∈ segments, s ≠ [] ∧ scanRequest s = .ok ()) :
    scanSegments segments = .ok () ∧ scanSegments (segments ++ [[]]) = .ok () := by
  induction segments with
  | nil => exact ⟨rfl, rfl⟩
  | cons s segments ih =>
    obtain ⟨hs, hrest⟩ := List.forall_mem_cons.mp h
    obtain ⟨hall, hslash⟩ := ih hrest
    simp only [List.cons_append, scanSegments, Except.bind_eq_ok, Except.reject_eq_ok, exists_const, hs.1, hs.2, false_and,
      not_false_eq_true, true_and]
    exact ⟨hall, hslash⟩

/-- The characters of a scanned segment: of `_L`, or of an escape. -/
lemma chars_of_scanRequest {s : List Char} (hascii : IsAscii s) (h : scanRequest s = .ok ()) :
    ∀ c ∈ s, inL c = true ∨ c = '%' := by
  have hdigit : ∀ c : Char, c.toNat < 128 → inUpperHex c = true → inL c = true :=
    Text.forall_ascii (P := fun c => inUpperHex c = true → inL c = true) (by decide)
  induction s using scanRequest.induct with
  | case1 => exact fun c hc => absurd hc List.not_mem_nil
  | case2 h' l rest hhex => simp [scanRequest, hhex] at h
  | case3 h' l rest hhex hrefused => simp [scanRequest, hhex, hrefused] at h
  | case4 h' l rest hhex hrefused ih =>
    rw [scanRequest.eq_def] at h
    simp only [if_true, if_neg hhex, if_neg hrefused] at h
    rw [not_not] at hhex
    simp only [Text.isAscii_cons] at hascii
    intro c hc
    simp only [List.mem_cons] at hc
    rcases hc with rfl | rfl | rfl | hc
    · exact Or.inr rfl
    · exact Or.inl (hdigit _ hascii.2.1 hhex.1)
    · exact Or.inl (hdigit _ hascii.2.2.1 hhex.2)
    · exact ih hascii.2.2.2 h c hc
  | case5 rest hshort =>
    rw [scanRequest.eq_def] at h
    dsimp only at h
    rw [if_pos rfl] at h
    split at h
    next h' l rest' => exact absurd rfl (hshort h' l rest')
    next => cases h
  | case6 c rest hne hletters =>
    rw [scanRequest.eq_def] at h
    simp [hne, hletters] at h
  | case7 c rest hne hletters ih =>
    rw [not_not] at hletters
    rw [scanRequest.eq_def] at h
    simp only [if_neg hne, hletters, not_true_eq_false, if_false] at h
    exact List.forall_mem_cons.mpr ⟨Or.inl hletters, ih (Text.isAscii_cons.mp hascii).2 h⟩

/-- The scan of all segments, segment by segment. -/
lemma scanRequest_of_scanSegments {segments : List (List Char)} (h : scanSegments segments = .ok ()) :
    ∀ s ∈ segments, scanRequest s = .ok () := by
  induction segments with
  | nil => exact fun s hs => absurd hs List.not_mem_nil
  | cons segment segments ih =>
    simp only [scanSegments, Except.bind_eq_ok] at h
    obtain ⟨_, -, _, hsegment, hrest⟩ := h
    exact List.forall_mem_cons.mpr ⟨hsegment, ih hrest⟩

/-- The characters of an accepted request path. -/
lemma chars_of_validateRequestPath {p : List Char} (h : validateRequestPath p = .ok ()) :
    ∀ c ∈ p, inL c = true ∨ c = '%' ∨ c = '/' := by
  obtain ⟨hascii, hhead, hlength, hcount, -, hscan⟩ := validateRequestPath_iff.mp h
  have hsplit : StaticContracts.splitPath p = some (p.tail.splitOn '/') := by
    unfold StaticContracts.splitPath
    rw [if_neg]
    rintro (h | h | h)
    · exact absurd hhead h
    · omega
    · omega
  intro c hc
  by_cases hslash : c = '/'
  · exact Or.inr (Or.inr hslash)
  · obtain ⟨s, hs, hmem⟩ := (Static.mem_segment hsplit hslash).mp hc
    have hall := chars_of_scanRequest (Static.isAscii_segment hascii hsplit hs) (scanRequest_of_scanSegments hscan s hs)
    exact (hall c hmem).imp id Or.inl

/-- An accepted request path has no space. -/
lemma space_notMem_of_validateRequestPath {p : List Char} (h : validateRequestPath p = .ok ()) : ' ' ∉ p :=
  fun hspace => absurd (chars_of_validateRequestPath h ' ' hspace) (by decide)

/-- An accepted request path is a value of the contract of probed paths. -/
lemma healthPath_of_validateRequestPath {s : String} (h : validateRequestPath s.toList = .ok ()) :
    Contract.healthPath s = true := by
  have hall := chars_of_validateRequestPath h
  obtain ⟨hascii, hhead, hlength, -, -, hscan⟩ := validateRequestPath_iff.mp h
  have hhealth : ∀ c : Char, c.toNat < 128 → inL c = true ∨ c = '%' ∨ c = '/' → Contract.healthChar c = true :=
    Text.forall_ascii (P := fun c => inL c = true ∨ c = '%' ∨ c = '/' → Contract.healthChar c = true) (by decide)
  rw [Contract.healthPath, Bool.and_eq_true, decide_eq_true_eq]
  refine ⟨hlength, ?_⟩
  obtain ⟨rest, hrest⟩ := List.head?_eq_some_iff.mp hhead
  rw [hrest] at hall hascii hscan ⊢
  cases rest with
  | nil => rfl
  | cons c rest =>
    have hclass : ∀ d ∈ c :: rest, Contract.healthChar d = true := fun d hd =>
      hhealth d (hascii d (List.mem_cons_of_mem _ hd)) (hall d (List.mem_cons_of_mem _ hd))
    -- a second slash would leave the first segment empty, and not the last
    have hslash : c ≠ '/' := by
      rintro rfl
      change scanSegments (('/' :: rest).splitOn '/') = .ok () at hscan
      rw [List.splitOn_cons_eq_if_modifyHead, if_pos (beq_self_eq_true _)] at hscan
      simp [scanSegments, Except.bind_eq_ok, List.splitOn_ne_nil] at hscan
    have hrestClass : rest.all Contract.healthChar = true :=
      List.all_eq_true.mpr fun d hd => hclass d (List.mem_cons_of_mem _ hd)
    simp [hclass c List.mem_cons_self, hslash, hrestClass]

/-- **A file path without a space is a request path.** -/
lemma validateRequestPath_of_file {p : List Char} (h : validateFilePath p = .ok ()) (hspace : ' ' ∉ p) :
    validateRequestPath p = .ok () := by
  obtain ⟨hascii, hhead, hlength, hcount, hall⟩ := validateFilePath_iff.mp h
  refine validateRequestPath_iff.mpr ⟨hascii, hhead, hlength, hcount, fun s hs => (hall s hs).1, ?_⟩
  refine (scanSegments_eq_ok fun s hs => ⟨(hall s hs).2.1, ?_⟩).1
  have hmem : ∀ c ∈ s, c ∈ p := fun c hc => List.mem_of_mem_tail (Text.mem_of_mem_splitOn hs hc)
  exact scanRequest_of_file (fun c hc => hascii c (hmem c hc)) (fun hc => hspace (hmem _ hc)) (hall s hs)

/-- What comes before the last segment ends with the slash. -/
lemma eq_append_lastSegment {p : List Char} (hhead : p.head? = some '/') : ∃ q, p = q ++ '/' :: lastSegment p := by
  have hreverse : p.reverse = p.reverse.takeWhile (· ≠ '/') ++ p.reverse.dropWhile (· ≠ '/') :=
    (List.takeWhile_append_dropWhile).symm
  cases hdrop : p.reverse.dropWhile (· ≠ '/') with
  | nil =>
    have hall := List.dropWhile_eq_nil_iff.mp hdrop
    obtain ⟨rest, rfl⟩ := List.head?_eq_some_iff.mp hhead
    simpa using hall '/' (by simp)
  | cons c rest =>
    have hslash : c = '/' := by
      have hhead := List.head?_dropWhile_not (· ≠ '/') p.reverse
      rw [hdrop] at hhead
      simpa using hhead
    rw [hdrop, hslash] at hreverse
    refine ⟨rest.reverse, ?_⟩
    rw [lastSegment, afterLast]
    have hp := congrArg List.reverse hreverse
    simpa using hp

/-- The directory of an index document is a request path where that has no space. -/
lemma validateRequestPath_of_directory {p : List Char} (h : validateFilePath p = .ok ())
    (hindex : lastSegment p = indexName) (hspace : ' ' ∉ p.take (p.length - indexName.length)) :
    validateRequestPath (p.take (p.length - indexName.length)) = .ok () := by
  obtain ⟨hascii, hhead, hlength, hcount, hall⟩ := validateFilePath_iff.mp h
  obtain ⟨q, hq⟩ := eq_append_lastSegment hhead
  rw [hindex] at hq
  have hdirectory : p.take (p.length - indexName.length) = q ++ ['/'] := by
    have hcut : p = (q ++ ['/']) ++ indexName := by rw [hq]; simp
    rw [hcut, List.length_append, Nat.add_sub_cancel, List.take_left]
  rw [hdirectory] at hspace ⊢
  rcases q with _ | ⟨c, q⟩
  · decide
  · obtain rfl : c = '/' := by
      rw [hq] at hhead
      simpa using hhead
    -- the segments before the last are those of the file
    have htail : p.tail = q ++ '/' :: indexName := by rw [hq]; rfl
    rw [htail, List.splitOn_append_cons_self] at hall
    have hbefore : ∀ s ∈ q.splitOn '/', IsFileSegment s := fun s hs => hall s (List.mem_append_left _ hs)
    have hsub : ∀ c ∈ '/' :: q ++ ['/'], c ∈ p := by
      rw [hq]
      intro c hc
      simp only [List.cons_append, List.mem_cons, List.mem_append, List.not_mem_nil, or_false] at hc ⊢
      tauto
    have hsplit : ('/' :: q ++ ['/']).tail.splitOn '/' = q.splitOn '/' ++ [[]] := by
      change (q ++ '/' :: []).splitOn '/' = _
      rw [List.splitOn_append_cons_self]
      rfl
    have hsegment : ∀ s ∈ q.splitOn '/', s ≠ [] ∧ scanRequest s = .ok () := by
      intro s hs
      have hmem : ∀ c ∈ s, c ∈ '/' :: q ++ ['/'] := fun c hc =>
        List.mem_append_left _ (List.mem_cons_of_mem _ (Text.mem_of_mem_splitOn hs hc))
      refine ⟨(hbefore s hs).2.1, scanRequest_of_file (fun c hc => hascii c (hsub c (hmem c hc))) ?_ (hbefore s hs)⟩
      exact fun hc => hspace (hmem _ hc)
    refine validateRequestPath_iff.mpr ⟨fun c hc => hascii c (hsub c hc), rfl, ?_, ?_, ?_, ?_⟩
    · rw [hq] at hlength
      simp only [List.cons_append, List.length_cons, List.length_append, List.length_nil] at hlength ⊢
      omega
    · rw [hq] at hcount
      simp only [List.cons_append, List.count_cons, List.count_append, List.count_nil] at hcount ⊢
      omega
    · rw [hsplit]
      intro s hs
      rcases List.mem_append.mp hs with hs | hs
      · exact (hbefore s hs).1
      · rw [List.mem_singleton.mp hs]
        rfl
    · rw [hsplit]
      exact (scanSegments_eq_ok hsegment).2

/-! ## The table of routes -/

/-- A loop that stores what has a property stores nothing else. -/
lemma forall_foldl_table {Q : List Char × File → Prop} {files : List File}
    {step : List (List Char × File) → File → List (List Char × File)}
    (hstep : ∀ table, ∀ item ∈ files, (∀ entry ∈ table, Q entry) → ∀ entry ∈ step table item, Q entry)
    {table : List (List Char × File)} (htable : ∀ entry ∈ table, Q entry) :
    ∀ entry ∈ files.foldl step table, Q entry := by
  induction files generalizing table with
  | nil => exact htable
  | cons item files ih =>
    rw [List.foldl_cons]
    exact ih (fun table other hother => hstep table other (List.mem_cons_of_mem _ hother))
      (hstep table item List.mem_cons_self htable)

/-- A route is the path of a file or the directory of an index document. -/
def IsRouteOf (m : Manifest) (entry : List Char × File) : Prop :=
  entry.2 ∈ m.files ∧ (entry.1 = entry.2.path ∨ lastSegment entry.2.path = indexName ∧
    entry.1 = entry.2.path.take (entry.2.path.length - indexName.length))

lemma isRouteOf_of_mem {m : Manifest} : ∀ entry ∈ routes m, IsRouteOf m entry := by
  refine forall_foldl_table (fun table item hitem htable => ?_) (forall_foldl_table (fun table item hitem htable => ?_)
    fun entry h => absurd h List.not_mem_nil)
  · split
    next hindex => exact List.forall_mem_cons.mpr ⟨⟨hitem, Or.inr ⟨hindex, rfl⟩⟩, htable⟩
    next => exact htable
  · exact List.forall_mem_cons.mpr ⟨⟨hitem, Or.inl rfl⟩, htable⟩

variable {index : AuthenticatedIndex}

/-- **The routes that cannot be requested** are those with an unescaped space. -/
lemma AuthenticatedIndex.Verified.validateRequestPath_iff_space (h : index.Verified) {path : List Char} {item : File}
    (hroute : index.routes.lookup path = some item) : validateRequestPath path = .ok () ↔ ' ' ∉ path := by
  refine ⟨space_notMem_of_validateRequestPath, fun hspace => ?_⟩
  obtain ⟨before, after, htable, -⟩ := List.lookup_eq_some_iff.mp hroute
  have hmem : (path, item) ∈ routes index.manifest := by
    rw [← h.routesOf, htable]
    simp
  obtain ⟨hitem, hshape⟩ := isRouteOf_of_mem _ hmem
  have hfile := (((Static.index_validate_ok index.manifest).mp h.manifestValid).file item hitem).path
  rcases hshape with hpath | ⟨hindex, hpath⟩
  · have hpath : path = item.path := hpath
    rw [hpath] at hspace ⊢
    exact validateRequestPath_of_file hfile hspace
  · have hpath : path = item.path.take (item.path.length - indexName.length) := hpath
    rw [hpath] at hspace ⊢
    exact validateRequestPath_of_directory hfile hindex hspace

/-- A name of plain characters is a request path. -/
lemma validateRequestPath_of_name {s : List Char} (hs : ∀ c ∈ s, inL c = true ∧ c.toNat < 128) (hlength : 3 ≤ s.length ∧ s.length ≤ 255) :
    validateRequestPath ('/' :: s) = .ok () := by
  have hslash : '/' ∉ s := fun h => absurd (hs _ h).1 (by decide)
  have hsplit : ('/' :: s).tail.splitOn '/' = [s] := List.splitOn_eq_singleton hslash
  have hscan : ∀ t : List Char, (∀ c ∈ t, inL c = true ∧ c.toNat < 128) → scanRequest t = .ok () := by
    intro t ht
    induction t with
    | nil => rfl
    | cons c t ih =>
      obtain ⟨hc, hrest⟩ := List.forall_mem_cons.mp ht
      have hpercent : c ≠ '%' := by
        rintro rfl
        exact absurd hc.1 (by decide)
      rw [scanRequest.eq_def]
      simp only [if_neg hpercent, hc.1, not_true_eq_false, if_false]
      exact ih hrest
  refine validateRequestPath_iff.mpr ⟨?_, rfl, ?_, ?_, ?_, ?_⟩
  · exact Text.isAscii_cons.mpr ⟨by decide, fun c hc => (hs c hc).2⟩
  · simp only [List.length_cons]
    omega
  · rw [List.count_cons, List.count_eq_zero.mpr hslash]
    decide
  · rw [hsplit]
    intro t ht
    rw [List.mem_singleton.mp ht, checkSegment, if_neg (by rw [maxSegmentBytes]; omega), if_neg]
    rintro (rfl | rfl) <;> simp at hlength
  · rw [hsplit]
    exact (scanSegments_eq_ok (List.forall_mem_singleton.mpr ⟨by rintro rfl; simp at hlength, hscan s hs⟩)).1

end StaticIndex

/-! ## What a hidden probe asks for -/

namespace Probe

open StaticIndex (AuthenticatedIndex Method ResponseError StaticEndpointTarget validateRequestPath inL)
open StaticProbe (ProbeKind)

variable {index : AuthenticatedIndex} {selector : Mac} {ceiling : ℤ}

lemma digit_inL {n : ℕ} (h : n < 16) : inL (Hex.digit n) = true ∧ (Hex.digit n).toNat < 128 := by
  interval_cases n <;> decide

/-- A made-up path is a request path. -/
lemma validateRequestPath_synthetic {token : List UInt8} (htoken : token.length = 16) {suffix : String}
    (hsuffix : suffix = ".absent" ∨ suffix = "") : validateRequestPath ("/" ++ hex token ++ suffix).toList = .ok () := by
  have hlist : ("/" ++ hex token ++ suffix).toList = '/' :: (Hex.encode (token.map UInt8.toNat) ++ suffix.toList) := by
    simp only [hex, String.toList_append, String.toList_ofList]
    rfl
  have hdigits : ∀ c ∈ Hex.encode (token.map UInt8.toNat), inL c = true ∧ c.toNat < 128 := by
    intro c hc
    obtain ⟨n, -, hc⟩ := List.mem_flatMap.mp hc
    simp only [List.mem_cons, List.not_mem_nil, or_false] at hc
    rcases hc with rfl | rfl
    · exact digit_inL (Nat.mod_lt _ (by decide))
    · exact digit_inL (Nat.mod_lt _ (by decide))
  have hsuffixChars : (∀ c ∈ suffix.toList, inL c = true ∧ c.toNat < 128) ∧ suffix.toList.length ≤ 7 := by
    rcases hsuffix with rfl | rfl <;> decide
  rw [hlist]
  apply StaticIndex.validateRequestPath_of_name
  · intro c hc
    rcases List.mem_append.mp hc with hc | hc
    · exact hdigits c hc
    · exact hsuffixChars.1 c hc
  · rw [List.length_append, Hex.encode_length, List.length_map, htoken]
    omega

lemma syntheticPath_eq_some {token : List UInt8} {suffix path : String} (h : syntheticPath index token suffix = some path) :
    path = "/" ++ hex (token.take 16) ++ suffix := by
  unfold syntheticPath at h
  dsimp only at h
  split at h
  · cases h
  · exact (Option.some.inj h).symm

/-- The made-up path of a selector is a request path. -/
lemma validateRequestPath_hiddenSynthetic {path : String} (h : hiddenSynthetic index selector = some path) :
    validateRequestPath path.toList = .ok () := by
  have htoken : ((selector.toList.drop 16).take 16).length = 16 := by simp
  unfold hiddenSynthetic at h
  dsimp only at h
  by_cases hlane : selector[0].toNat % 8 = 0 ∨ selector[0].toNat % 8 = 1
  · rw [if_pos hlane] at h
    rw [syntheticPath_eq_some h]
    refine validateRequestPath_synthetic htoken ?_
    by_cases hzero : selector[0].toNat % 8 = 0
    · exact Or.inl (if_pos hzero)
    · exact Or.inr (if_neg hzero)
  · rw [if_neg hlane] at h
    cases h

/-- The route of a selector is one of the site. -/
lemma exists_lookup_hiddenRoute (h : index.Verified) (selector : Mac) :
    ∃ item, index.routes.lookup (hiddenRoute index selector) = some item := by
  have hrules := (Static.index_validate_ok index.manifest).mp h.manifestValid
  obtain ⟨root, hroot, -⟩ := hrules.root
  obtain ⟨found, hfound⟩ := Static.exists_lookup_of_listed hroot
  rw [← h.routesOf] at hfound
  have hlisted : ∀ {path : List Char} {item : Static.File}, index.routes.lookup path = some item →
      path ∈ index.routes.map Prod.fst := by
    intro path item hlookup
    obtain ⟨before, after, htable, -⟩ := List.lookup_eq_some_iff.mp hlookup
    simp [htable]
  have hpos : 0 < (sortedRoutes index).length :=
    List.length_pos_of_mem (Sorting.mem_sortedSet.mpr (hlisted hfound))
  have hmem : hiddenRoute index selector ∈ sortedRoutes index := by
    unfold hiddenRoute
    dsimp only
    rw [List.getD_eq_getElem?_getD, List.getElem?_eq_getElem (Nat.mod_lt _ hpos), Option.getD_some]
    exact List.getElem_mem _
  obtain ⟨entry, hentry, hpath⟩ := List.mem_map.mp (Sorting.mem_sortedSet.mp hmem)
  cases hlookup : index.routes.lookup (hiddenRoute index selector) with
  | none => exact absurd (List.lookup_eq_none_iff.mp hlookup entry hentry) (by simp [hpath])
  | some item => exact ⟨item, rfl⟩

/-- The selector leads to a route of the site whose path has an unescaped space. -/
def SpacedRoute (index : AuthenticatedIndex) (selector : Mac) : Prop :=
  hiddenSynthetic index selector = none ∧ ' ' ∈ hiddenRoute index selector

/-- What a probe asks for is expected of the site: its path is accepted, its method is GET only for a response
within the ceiling, and its record says what is expected. -/
structure Asks (index : AuthenticatedIndex) (ceiling : ℤ) (p : PlannedStaticProbe) : Prop where
  path : validateRequestPath p.path.toList = .ok ()
  expected : ∃ e, index.expectedResponse p.method p.path = .ok e ∧ e.contentLength = p.expectedContentLength ∧
    e.kind = p.expectedKind
  within : p.method = .get → p.expectedContentLength ≤ ceiling

/-- A file that is found is expected, whatever the method. -/
lemma expectedResponse_of_route {path : List Char} {item : Static.File} (hroute : index.routes.lookup path = some item)
    (hpath : validateRequestPath path = .ok ()) (method : Method) :
    ∃ e, index.expectedResponse method (String.ofList path) = .ok e ∧ e.contentLength = item.contentLength := by
  unfold AuthenticatedIndex.expectedResponse StaticIndex.expectedStaticResponse
  rw [String.toList_ofList, hpath]
  dsimp only
  rw [hroute]
  exact ⟨_, rfl, rfl⟩

/-- A path that is refused is not expected. -/
lemma expectedResponse_of_refused {path : String} (hpath : validateRequestPath path.toList ≠ .ok ()) (method : Method) :
    ∃ error, index.expectedResponse method path = .error error := by
  unfold AuthenticatedIndex.expectedResponse StaticIndex.expectedStaticResponse
  cases hresult : validateRequestPath path.toList with
  | ok u => exact absurd hresult hpath
  | error text => exact ⟨_, rfl⟩

/-- **What is chosen.** A selector leads to a method and a path that the site expects, GET only within the
ceiling; or to a route with an unescaped space, of which the site expects nothing. -/
lemma hiddenChoice_cases (h : index.Verified) (selector : Mac) (ceiling : ℤ) :
    ∃ method path, hiddenChoice index selector ceiling = .ok (method, path) ∧
      (SpacedRoute index selector ∧ (∃ error, index.expectedResponse method path = .error error) ∨
        ¬ SpacedRoute index selector ∧ validateRequestPath path.toList = .ok () ∧
          ∃ e, index.expectedResponse method path = .ok e ∧ StaticIndex.Expectable e ∧
            (method = .get → e.contentLength ≤ ceiling)) := by
  have hwithin : ∀ length, methodWithin ceiling length = .get → length ≤ ceiling := by
    intro length hget
    by_contra hmore
    rw [methodWithin, if_neg hmore] at hget
    cases hget
  unfold hiddenChoice
  cases hsynthetic : hiddenSynthetic index selector with
  | some path =>
    have hpath := validateRequestPath_hiddenSynthetic hsynthetic
    obtain ⟨e, he, -⟩ := h.expectedResponse .get hpath
    obtain ⟨e', he', hexpectable, first, hfirst, hlength⟩ := h.expectedResponse (methodWithin ceiling e.contentLength) hpath
    rw [he] at hfirst
    obtain rfl := Except.ok.inj hfirst
    refine ⟨methodWithin ceiling e.contentLength, path, ?_, Or.inr ⟨?_, hpath, e', he', hexpectable, ?_⟩⟩
    · dsimp only
      rw [he]
      rfl
    · rintro ⟨hnone, -⟩
      rw [hsynthetic] at hnone
      cases hnone
    · rw [← hlength]
      exact hwithin _
  | none =>
    obtain ⟨item, hitem⟩ := exists_lookup_hiddenRoute h selector
    refine ⟨methodWithin ceiling item.contentLength, String.ofList (hiddenRoute index selector), ?_, ?_⟩
    · dsimp only
      rw [hitem]
      rfl
    · by_cases hspace : ' ' ∈ hiddenRoute index selector
      · refine Or.inl ⟨⟨hsynthetic, hspace⟩, expectedResponse_of_refused ?_ _⟩
        rw [String.toList_ofList]
        exact fun hok => (h.validateRequestPath_iff_space hitem).mp hok hspace
      · have hpath := (h.validateRequestPath_iff_space hitem).mpr hspace
        have hpath' : validateRequestPath (String.ofList (hiddenRoute index selector)).toList = .ok () := by
          rw [String.toList_ofList]
          exact hpath
        obtain ⟨e, he, hlength⟩ := expectedResponse_of_route hitem hpath (methodWithin ceiling item.contentLength)
        obtain ⟨e', he', hexpectable, -⟩ := h.expectedResponse (methodWithin ceiling item.contentLength) hpath'
        rw [he] at he'
        obtain rfl := Except.ok.inj he'
        refine Or.inr ⟨fun hs => hspace hs.2, hpath', e, he, hexpectable, ?_⟩
        rw [hlength]
        exact hwithin _

/-! ## The record of a place -/

/-- 32 bytes are 64 hexadecimal digits. -/
lemma hex64_mac (mac : Mac) : Contract.hex64 (hex mac.toList) = true := by
  rw [Contract.hex64, Protocol.lowercaseHex, hex, String.toList_ofList, Hex.encode_length, List.length_map,
    Vector.length_toList, Contract.all_hexDigit_encode]
  rfl

/-- The place belongs to a published endpoint of a verified index. -/
def StaticDraw.Published (d : StaticDraw) : Prop := d.index.Verified ∧ d.endpoint ∈ d.index.target.endpoints

variable {d : StaticDraw} {s : Schedule} {hmac : List UInt8 → List UInt8 → Mac} {seed : List UInt8} {hotkey : String}
  {horizon : Horizon}

/-- The selector of a place. -/
def StaticDraw.requestMac (d : StaticDraw) (hmac : List UInt8 → List UInt8 → Mac) (seed : List UInt8)
    (hotkey : String) (s : Schedule) : Mac := d.mac hmac seed s hotkey "request"

/-- The nonce of a place. -/
def StaticDraw.nonce (d : StaticDraw) (hmac : List UInt8 → List UInt8 → Mac) (seed : List UInt8)
    (hotkey : String) (s : Schedule) : String := hex (d.mac hmac seed s hotkey "nonce").toList

/-- The record of a place: its endpoint, its position, its instant, its nonce, and a target of its site. -/
structure Records (d : StaticDraw) (fireAt ceiling : ℤ) (nonce : String) (p : PlannedStaticProbe) : Prop where
  hidden : p.probeKind = .hidden
  deployment : p.deploymentID = d.index.target.deploymentID
  site : p.siteDigest = d.index.target.siteDigest
  endpoint : p.endpointID = d.endpoint.endpointID
  generation : p.generation = d.endpoint.generation
  position : p.probeIndex = d.position
  fireAt : p.fireAtMillis = some fireAt
  nonce : p.nonce = nonce
  asks : Asks d.index ceiling p

/-- The record built from an expected response is valid unless its instant is out of range. -/
lemma planned_expected (h : d.Published) (hposition : d.position < 16) {method : Method} {path nonce : String}
    (hpath : validateRequestPath path.toList = .ok ()) {e : StaticIndex.ExpectedStaticResponse}
    (he : d.index.expectedResponse method path = .ok e) (hexpectable : StaticIndex.Expectable e)
    (hwithin : method = .get → e.contentLength ≤ ceiling) (hnonce : Contract.hex64 nonce = true) {fireAt : ℤ}
    (hfire : 0 ≤ fireAt) :
    (fireAt ≤ maxEpochMillis → ∃ p, planned d.index d.endpoint .hidden method path d.position (some fireAt) nonce = .ok p ∧
        Records d fireAt ceiling nonce p) ∧
      (¬ fireAt ≤ maxEpochMillis →
        planned d.index d.endpoint .hidden method path d.position (some fireAt) nonce = .error .validation) := by
  obtain ⟨⟨-, -, htarget, -⟩, hendpoint⟩ := h
  obtain ⟨hdeployment, -, hsite, -, -, -, hendpoints, -⟩ := htarget
  obtain ⟨hid, hgeneration, -⟩ := hendpoints _ hendpoint
  have hlength : 0 ≤ e.contentLength ∧ e.contentLength ≤ maxFileBytes := hexpectable.length
  have hindex : (0 : ℤ) ≤ d.position ∧ (d.position : ℤ) ≤ maxAdmissionRequests := by
    rw [maxAdmissionRequests]
    omega
  have hhealth := StaticIndex.healthPath_of_validateRequestPath hpath
  unfold planned
  rw [he]
  simp only [Except.mapError, bind, Except.bind, Except.reject]
  constructor
  · intro hmax
    have hfires : ∀ instant ∈ (some fireAt : Option ℤ), 0 ≤ instant ∧ instant ≤ maxEpochMillis := by
      intro instant hinstant
      obtain rfl := Option.some.inj hinstant
      exact ⟨hfire, hmax⟩
    rw [if_neg (not_not.mpr ⟨hdeployment, hsite, hid, hgeneration, hhealth, hlength, hindex, hfires, hnonce⟩)]
    exact ⟨_, rfl, rfl, rfl, rfl, rfl, rfl, rfl, rfl, rfl, hpath, ⟨e, he, rfl, rfl⟩, hwithin⟩
  · intro hmax
    rw [if_pos]
    rintro ⟨-, -, -, -, -, -, -, hfires, -⟩
    exact hmax (hfires fireAt rfl).2

variable (hmac seed hotkey horizon ceiling) in
/-- **When a place has a record**: outside the horizon it has none; inside, it has one exactly when its instant
is in range and its selector leads to no route with an unescaped space. -/
lemma StaticDraw.probe_cases (h : d.Published) (hposition : d.position < 16)
    (hfire : 0 ≤ d.fireAt hmac seed hotkey s) :
    (¬ horizon.Holds (d.fireAt hmac seed hotkey s) ∧ d.probe hmac seed hotkey s horizon ceiling = .ok none) ∨
      horizon.Holds (d.fireAt hmac seed hotkey s) ∧
        ((d.fireAt hmac seed hotkey s ≤ maxEpochMillis ∧ ¬ SpacedRoute d.index (d.requestMac hmac seed hotkey s) ∧
            ∃ p, d.probe hmac seed hotkey s horizon ceiling = .ok (some p) ∧
              Records d (d.fireAt hmac seed hotkey s) ceiling (d.nonce hmac seed hotkey s) p) ∨
          ¬ (d.fireAt hmac seed hotkey s ≤ maxEpochMillis ∧ ¬ SpacedRoute d.index (d.requestMac hmac seed hotkey s)) ∧
            ∃ error, d.probe hmac seed hotkey s horizon ceiling = .error error) := by
  unfold StaticDraw.probe
  dsimp only
  by_cases hholds : horizon.Holds (d.fireAt hmac seed hotkey s)
  · refine Or.inr ⟨hholds, ?_⟩
    rw [if_pos hholds]
    obtain ⟨method, path, hchoice, hcases⟩ := hiddenChoice_cases h.1 (d.requestMac hmac seed hotkey s) ceiling
    have hchoice : hiddenChoice d.index (d.mac hmac seed s hotkey "request") ceiling = .ok (method, path) := hchoice
    rw [hchoice]
    rcases hcases with ⟨hspaced, error, herror⟩ | ⟨hspaced, hpath, e, he, hexpectable, hwithin⟩
    · refine Or.inr ⟨fun hboth => hboth.2 hspaced, .response error, ?_⟩
      simp only [planned, herror, Except.mapError, bind, Except.bind]
    · have hnonce : Contract.hex64 (d.nonce hmac seed hotkey s) = true := hex64_mac _
      obtain ⟨hin, hout⟩ := planned_expected h hposition hpath he hexpectable hwithin hnonce hfire
      by_cases hmax : d.fireAt hmac seed hotkey s ≤ maxEpochMillis
      · obtain ⟨p, hp, hrecords⟩ := hin hmax
        refine Or.inl ⟨hmax, hspaced, p, ?_, hrecords⟩
        simp only [bind, Except.bind]
        rw [StaticDraw.nonce] at hp
        rw [hp]
        rfl
      · refine Or.inr ⟨fun hboth => hmax hboth.1, .validation, ?_⟩
        have hp := hout hmax
        simp only [bind, Except.bind]
        rw [StaticDraw.nonce] at hp
        rw [hp]
  · refine Or.inl ⟨hholds, ?_⟩
    rw [if_neg hholds]
    rfl

end Probe

end Misscomputer
