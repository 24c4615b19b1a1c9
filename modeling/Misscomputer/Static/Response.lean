import Misscomputer.Static.Rules

set_option relaxedAutoImplicit false
set_option autoImplicit false

/-!
# The answers of a site

The miner's handler answers a request from the manifest alone; the validator computes from the same
manifest what the answer has to be. Here are both computations, and that they agree.

## Main definitions

* `Static.newIndex`, `Static.Index.resolve` — the miner's response table and handler.
* `StaticIndex.routes`, `StaticIndex.expectedStaticResponse` — the validator's.

## Main results

* `Static.newIndex_routes` — both sides build one table from request paths to files.
* `Static.resolve_is_expected` — on every site the validator accepts, every answer to a GET or HEAD is
  the expected one.

## Implementation notes

SHA-256 is a parameter, and so is the digest of a list of header pairs. The miner ranges over a map of
headers, so the pairs it hands to the digest are in no particular order.

## References

* `pkg/static/handler.go`
* `pkg/organic/public.go` (`ResponseHeaderSHA256`)
* `src/misscomputer_subnet/static_index.py`, `src/misscomputer_subnet/organic_contracts.py`
-/

namespace Misscomputer

open Text

/-! ## The miner: `pkg/static` -/

namespace Static

/-- `Response`: one file of the manifest or one fixed body. -/
structure Response where
  /-- `Status`. -/
  status : ℕ
  /-- `File`, absent for a fixed body. -/
  file : Option File
  /-- `Fixed`. -/
  fixed : List UInt8
  /-- `Head`: the body is not sent. -/
  head : Bool
deriving DecidableEq, Repr

/-- `badRequestBody`. -/
def badRequestBody : List UInt8 := bytes "Bad Request\n".toList

/-- `notFoundBody`. -/
def notFoundBody : List UInt8 := bytes "Not Found\n".toList

/-- `methodNotAllowedBody`. -/
def methodNotAllowedBody : List UInt8 := bytes "Method Not Allowed\n".toList

/-- `fixedContentType`. -/
def fixedContentType : List Char := "text/plain; charset=utf-8".toList

/-- `CacheControl`. -/
def cacheControl : List Char := "private, no-store".toList

/-- `strconv.FormatInt` and `str` of an integer. -/
def decimal (n : ℤ) : List Char := (toString n).toList

/-- `ContentLength`. -/
def Response.contentLength (r : Response) : ℤ :=
  match r.file with
  | some file => file.contentLength
  | none => r.fixed.length

/-- `BodySHA256`. -/
def Response.bodySha256 (sha256 : List UInt8 → List Char) (r : Response) : List Char :=
  if r.head then sha256 []
  else match r.file with
    | some file => file.bodySha256
    | none => sha256 r.fixed

/-- `Header`. -/
def Response.header (r : Response) : List (List Char × List Char) :=
  [("Cache-Control".toList, cacheControl),
    ("Content-Length".toList, decimal r.contentLength),
    ("Content-Type".toList, (r.file.map File.contentType).getD fixedContentType),
    ("X-Content-Type-Options".toList, "nosniff".toList)] ++
  if r.status = 405 then [("Allow".toList, "GET, HEAD".toList)] else []

/-- The pairs `HeaderSHA256` collects, in one of the orders it may meet them. -/
def Response.headerPairs (r : Response) : List (List Char × List Char) :=
  r.header.map fun pair => (lower pair.1, pair.2)

/-- `ResponseHeaderSHA256` and `response_header_sha256`: the digest of the pairs in the order of their
lower-cased names. -/
def responseHeaderSha256 (hash : List (List Char × List Char) → List Char)
    (headers : List (List Char × List Char)) : List Char :=
  hash ((headers.map fun pair => (lower pair.1, pair.2)).mergeSort fun a b => a.1 ≤ b.1)

/-- `Index`: the response table, the latest entry of a path first. -/
structure Index where
  /-- `routes`. -/
  routes : List (List UInt8 × File)
  /-- `fallback`. -/
  fallback : Option File

/-- The zero value of `File`. -/
def File.zero : File := ⟨[], 0, [], []⟩

/-- `NewIndex`. -/
def newIndex (m : Manifest) : Index :=
  let files := m.files.foldl (fun routes file => (bytes file.path, file) :: routes) []
  let routes := m.files.foldl (fun routes file =>
    if lastSegment file.path = indexName then
      (bytes (file.path.take (file.path.length - indexName.length)), file) :: routes
    else routes) files
  { routes := routes
    fallback := m.fallback.map fun fallback => (routes.lookup (bytes fallback.target)).getD File.zero }

/-- `Resolve`. -/
def Index.resolve (x : Index) (method : String) (rawPath : List UInt8) (hasBody : Bool) : Response :=
  if method ≠ "GET" ∧ method ≠ "HEAD" then ⟨405, none, methodNotAllowedBody, false⟩
  else if hasBody = true ∨ validRequestPath rawPath = false then
    ⟨400, none, badRequestBody, method = "HEAD"⟩
  else match x.routes.lookup rawPath with
    | some file => ⟨200, some file, [], method = "HEAD"⟩
    | none => match x.fallback with
      | some target =>
        if 0x2e ∉ afterLast 0x2f rawPath then ⟨200, some target, [], method = "HEAD"⟩
        else ⟨404, none, notFoundBody, method = "HEAD"⟩
      | none => ⟨404, none, notFoundBody, method = "HEAD"⟩

end Static

/-! ## The validator: `static_index` -/

namespace StaticIndex

open Static (Manifest File lower decimal lastSegment)

/-- The methods a validator probes with. -/
inductive Method
  | get
  | head
deriving DecidableEq, Repr

/-- The method on the wire. -/
def Method.text : Method → String
  | .get => "GET"
  | .head => "HEAD"

/-- `ResponseKind`. -/
inductive ResponseKind
  | directoryIndex
  | file
  | navigationFallback
  | notFound
deriving DecidableEq, Repr

/-- `ExpectedStaticResponse`. -/
structure ExpectedStaticResponse where
  /-- `path`. -/
  path : List Char
  /-- `method`. -/
  method : Method
  /-- `kind`. -/
  kind : ResponseKind
  /-- `status`. -/
  status : ℕ
  /-- `content_type`. -/
  contentType : List Char
  /-- `content_length`: the length announced. -/
  contentLength : ℤ
  /-- `body_sha256`: the digest of the body on the wire. -/
  bodySha256 : List Char
  /-- `header_sha256`. -/
  headerSha256 : List Char
deriving DecidableEq, Repr

/-- What `expected_static_response` raises. -/
inductive ResponseError
  /-- `StaticPathError`. -/
  | staticPath (text : String)
  /-- `KeyError`. -/
  | key
deriving DecidableEq, Repr

/-- `VerifiedStaticIndex`: the manifest and its table of routes. -/
structure VerifiedStaticIndex where
  /-- `manifest`. -/
  manifest : Manifest
  /-- `routes`, the latest entry of a path first. -/
  routes : List (List Char × File)

/-- `_routes`. -/
def routes (manifest : Manifest) : List (List Char × File) :=
  let table := manifest.files.foldl (fun table item => (item.path, item) :: table) []
  manifest.files.foldl (fun table item =>
    if lastSegment item.path = Static.indexName then
      (item.path.take (item.path.length - Static.indexName.length), item) :: table
    else table) table

/-- The index a manifest is verified into. -/
def verified (manifest : Manifest) : VerifiedStaticIndex := ⟨manifest, routes manifest⟩

/-- `normative_headers`. -/
def normativeHeaders (contentType : List Char) (contentLength : ℤ) : List (List Char × List Char) :=
  [("cache-control".toList, "private, no-store".toList),
    ("content-length".toList, decimal contentLength),
    ("content-type".toList, contentType),
    ("x-content-type-options".toList, "nosniff".toList)]

/-- `NOT_FOUND_BODY`. -/
def notFoundBody : List UInt8 := bytes "Not Found\n".toList

/-- `PLATFORM_CONTENT_TYPE`. -/
def platformContentType : List Char := "text/plain; charset=utf-8".toList

section

variable (sha256 : List UInt8 → List Char) (hash : List (List Char × List Char) → List Char)

/-- `_expected`. -/
def expected (path : List Char) (method : Method) (kind : ResponseKind) (status : ℕ)
    (contentType : List Char) (contentLength : ℤ) (bodySha256 : List Char) :
    ExpectedStaticResponse where
  path := path
  method := method
  kind := kind
  status := status
  contentType := contentType
  contentLength := contentLength
  bodySha256 := if method = .get then bodySha256 else sha256 []
  headerSha256 := Static.responseHeaderSha256 hash (normativeHeaders contentType contentLength)

/-- The answer `expected_static_response` builds from a file. -/
def expectedFile (path : List Char) (method : Method) (kind : ResponseKind) (item : File) :
    ExpectedStaticResponse :=
  expected sha256 hash path method kind 200 item.contentType item.contentLength item.bodySha256

/-- The answer `expected_static_response` builds when nothing is found. -/
def expectedNotFound (path : List Char) (method : Method) : ExpectedStaticResponse :=
  expected sha256 hash path method .notFound 404 platformContentType notFoundBody.length
    (sha256 notFoundBody)

/-- `expected_static_response`. -/
def expectedStaticResponse (index : VerifiedStaticIndex) (method : Method) (path : List Char) :
    Except ResponseError ExpectedStaticResponse :=
  match validateRequestPath path with
  | .error text => .error (.staticPath text)
  | .ok () => match index.routes.lookup path with
    | some item =>
      .ok (expectedFile sha256 hash path method (if item.path = path then .file else .directoryIndex) item)
    | none => match index.manifest.fallback with
      | some fallback =>
        if '.' ∉ lastSegment path then
          match index.routes.lookup fallback.target with
          | some item => .ok (expectedFile sha256 hash path method .navigationFallback item)
          | none => .error .key
        else .ok (expectedNotFound sha256 hash path method)
      | none => .ok (expectedNotFound sha256 hash path method)

end

end StaticIndex

/-! ## One table -/

namespace Static

/-- Folding two tables in step keeps one the image of the other. -/
lemma foldl_insert_map (files : List File) (q : File → Prop) [DecidablePred q]
    (key : File → List Char) (table : List (List Char × File)) :
    files.foldl (fun routes file => if q file then (bytes (key file), file) :: routes else routes)
        (table.map fun entry => (bytes entry.1, entry.2)) =
      (files.foldl (fun routes file => if q file then (key file, file) :: routes else routes) table).map
        fun entry => (bytes entry.1, entry.2) := by
  induction files generalizing table with
  | nil => rfl
  | cons file files ih =>
    rw [List.foldl_cons, List.foldl_cons, ← ih]
    split <;> rfl

/-- **Both sides build one table.** -/
theorem newIndex_routes (m : Manifest) :
    (newIndex m).routes = (StaticIndex.routes m).map fun entry => (bytes entry.1, entry.2) := by
  have hfiles := foldl_insert_map m.files (fun _ => True) File.path []
  simp only [if_true, List.map_nil] at hfiles
  unfold newIndex StaticIndex.routes
  dsimp only
  rw [hfiles, foldl_insert_map _ _ (fun file => file.path.take (file.path.length - indexName.length))]

/-- Both tables answer a path alike. -/
lemma lookup_routes (m : Manifest) (p : List Char) :
    (newIndex m).routes.lookup (bytes p) = (StaticIndex.routes m).lookup p := by
  rw [newIndex_routes]
  induction StaticIndex.routes m with
  | nil => rfl
  | cons entry table ih =>
    obtain ⟨q, file⟩ := entry
    have hkey : (bytes p == bytes q) = (p == q) := by
      simp only [Bool.beq_eq_decide_eq, bytes_inj]
    simp only [List.map_cons, List.lookup_cons, hkey, ih]

/-- Every listed path is in the table. -/
lemma exists_lookup_of_listed {m : Manifest} {file : File} (hfile : file ∈ m.files) :
    ∃ found, (StaticIndex.routes m).lookup file.path = some found := by
  have hgrows : ∀ (files : List File) (table : List (List Char × File)), table ⊆
      files.foldl (fun table item =>
        if lastSegment item.path = indexName then
          (item.path.take (item.path.length - indexName.length), item) :: table
        else table) table := by
    intro files
    induction files with
    | nil => exact fun table => List.Subset.refl table
    | cons item files ih =>
      intro table
      rw [List.foldl_cons]
      split
      · exact List.Subset.trans (List.subset_cons_self _ _) (ih _)
      · exact ih _
  have hlisted : ∀ (files : List File) (table : List (List Char × File)),
      (∀ entry ∈ table, entry ∈ files.foldl (fun table item => (item.path, item) :: table) table) ∧
        ∀ item ∈ files, (item.path, item) ∈
          files.foldl (fun table item => (item.path, item) :: table) table := by
    intro files
    induction files with
    | nil => exact fun table => ⟨fun _ h => h, fun _ h => absurd h List.not_mem_nil⟩
    | cons item files ih =>
      intro table
      obtain ⟨hkeep, hnew⟩ := ih ((item.path, item) :: table)
      refine ⟨fun entry hentry => hkeep entry (List.mem_cons_of_mem _ hentry), fun other hother => ?_⟩
      rcases List.mem_cons.mp hother with rfl | hother
      · exact hkeep _ List.mem_cons_self
      · exact hnew other hother
  have hmem : (file.path, file) ∈ StaticIndex.routes m := hgrows _ _ ((hlisted m.files []).2 file hfile)
  cases hlookup : (StaticIndex.routes m).lookup file.path with
  | none => exact absurd (List.lookup_eq_none_iff.mp hlookup _ hmem) (by simp)
  | some found => exact ⟨found, rfl⟩

/-! ## One header digest -/

/-- The digest does not depend on the order the pairs are met in. -/
lemma responseHeaderSha256_perm (hash : List (List Char × List Char) → List Char)
    {pairs : List (List Char × List Char)} {type : List Char} {length : ℤ}
    (hperm : pairs.Perm (StaticIndex.normativeHeaders type length)) :
    responseHeaderSha256 hash pairs =
      responseHeaderSha256 hash (StaticIndex.normativeHeaders type length) := by
  unfold responseHeaderSha256
  congr 1
  have hmapped := hperm.map fun pair => (lower pair.1, pair.2)
  have hnames : ((StaticIndex.normativeHeaders type length).map
      fun pair => (lower pair.1, pair.2)).map Prod.fst |>.Nodup := by
    have hconst : ["cache-control".toList, "content-length".toList, "content-type".toList,
        "x-content-type-options".toList].map lower |>.Nodup := by decide
    exact hconst
  have hsorted : ∀ l : List (List Char × List Char),
      (l.mergeSort fun a b => a.1 ≤ b.1).Pairwise fun a b => decide (a.1 ≤ b.1) = true :=
    List.pairwise_mergeSort
      (fun a b c hab hbc => decide_eq_true ((of_decide_eq_true hab).trans (of_decide_eq_true hbc)))
      (fun a b => by simpa using le_total a.1 b.1)
  refine List.Perm.eq_of_pairwise ?_ (hsorted _) (hsorted _)
    (((List.mergeSort_perm _ _).trans hmapped).trans (List.mergeSort_perm _ _).symm)
  intro a b ha hb hab hba
  have ha := hmapped.mem_iff.mp ((List.mergeSort_perm _ _).mem_iff.mp ha)
  have hb := (List.mergeSort_perm _ _).mem_iff.mp hb
  exact List.inj_on_of_nodup_map hnames ha hb
    (le_antisymm (of_decide_eq_true hab) (of_decide_eq_true hba))

/-- The pairs of an answer from the table are the normative ones. -/
lemma headerPairs_eq {r : Response} (hstatus : r.status ≠ 405) :
    r.headerPairs = StaticIndex.normativeHeaders ((r.file.map File.contentType).getD fixedContentType)
      r.contentLength := by
  have h1 : lower "Cache-Control".toList = "cache-control".toList := by decide
  have h2 : lower "Content-Length".toList = "content-length".toList := by decide
  have h3 : lower "Content-Type".toList = "content-type".toList := by decide
  have h4 : lower "X-Content-Type-Options".toList = "x-content-type-options".toList := by decide
  rw [Response.headerPairs, Response.header, if_neg hstatus, List.append_nil, List.map_cons,
    List.map_cons, List.map_cons, List.map_cons, List.map_nil, h1, h2, h3, h4]
  rfl

/-! ## One answer -/

section

variable (sha256 : List UInt8 → List Char) (hash : List (List Char × List Char) → List Char)

/-- An answer is the expected one: same status, announced length, body and headers. -/
def Agrees (r : Response) (e : StaticIndex.ExpectedStaticResponse) : Prop :=
  r.status = e.status ∧ r.contentLength = e.contentLength ∧ r.bodySha256 sha256 = e.bodySha256 ∧
    ∀ pairs, pairs.Perm r.headerPairs → responseHeaderSha256 hash pairs = e.headerSha256

/-- A served file is the expected answer. -/
lemma agrees_file (file : File) (method : StaticIndex.Method) (path : List Char)
    (kind : StaticIndex.ResponseKind) :
    Agrees sha256 hash ⟨200, some file, [], method.text = "HEAD"⟩
      (StaticIndex.expectedFile sha256 hash path method kind file) := by
  refine ⟨rfl, rfl, ?_, fun pairs hpairs => ?_⟩
  · cases method <;> simp [Response.bodySha256, StaticIndex.expectedFile, StaticIndex.expected,
      StaticIndex.Method.text]
  · rw [headerPairs_eq (by simp)] at hpairs
    exact responseHeaderSha256_perm hash hpairs

/-- The fixed not-found body is the expected answer. -/
lemma agrees_notFound (method : StaticIndex.Method) (path : List Char) :
    Agrees sha256 hash ⟨404, none, notFoundBody, method.text = "HEAD"⟩
      (StaticIndex.expectedNotFound sha256 hash path method) := by
  refine ⟨rfl, rfl, ?_, fun pairs hpairs => ?_⟩
  · cases method <;> simp [Response.bodySha256, StaticIndex.expectedNotFound, StaticIndex.expected,
      StaticIndex.Method.text, notFoundBody, StaticIndex.notFoundBody]
  · rw [headerPairs_eq (by simp)] at hpairs
    exact responseHeaderSha256_perm hash hpairs

/-- Both sides see a dot in the last segment of a path alike. -/
lemma dot_mem_lastSegment {p : List Char} (hp : IsAscii p) :
    0x2e ∈ afterLast 0x2f (bytes p) ↔ '.' ∈ lastSegment p := by
  have hslash : ∀ c ∈ p, c.toUInt8 = ('/').toUInt8 → c = '/' := fun c hc h =>
    toUInt8_inj (hp c hc) (by decide) h
  have hmap : afterLast 0x2f (bytes p) = (lastSegment p).map Char.toUInt8 := by
    rw [bytes_eq_map hp]
    exact afterLast_map hslash
  rw [hmap, List.mem_map]
  constructor
  · rintro ⟨c, hc, hdot⟩
    have hdot : c.toUInt8 = ('.').toUInt8 := hdot
    rwa [toUInt8_inj (hp c (mem_of_mem_afterLast hc)) (by decide) hdot] at hc
  · exact fun h => ⟨'.', h, rfl⟩

/-- **The validator expects exactly what the pinned handler answers.** On every manifest the validator
accepts, so on every one both sides accept, for a GET or HEAD of any path: both sides accept the path or neither does; an accepted path gets
the expected status, length, body digest and header digest; any other is answered with 400, and the
validator refuses to expect anything.

**Proof sketch.** The path grammars agree, and so do the tables. If the table has the path, both answer
with its file. If not, both look for a dot in the last segment of the path, which is ASCII by now, and
answer with the fallback's file or the fixed body; the fallback is listed, so neither look-up of it
fails. -/
theorem resolve_is_expected (m : Manifest) (hindex : StaticIndex.validate m = .ok ())
    (method : StaticIndex.Method) (p : List Char) :
    (StaticIndex.validateRequestPath p = .ok () ↔ validRequestPath (bytes p) = true) ∧
    (StaticIndex.validateRequestPath p = .ok () →
      ∃ e, StaticIndex.expectedStaticResponse sha256 hash (StaticIndex.verified m) method p = .ok e ∧
        Agrees sha256 hash ((newIndex m).resolve method.text (bytes p) false) e) ∧
    (StaticIndex.validateRequestPath p ≠ .ok () →
      ((newIndex m).resolve method.text (bytes p) false).status = 400 ∧
        ∃ text, StaticIndex.expectedStaticResponse sha256 hash (StaticIndex.verified m) method p =
          .error (.staticPath text)) := by
  have hmethod : ¬ (method.text ≠ "GET" ∧ method.text ≠ "HEAD") := by
    cases method <;> simp [StaticIndex.Method.text]
  have hpath := validRequestPath_bytes p
  refine ⟨hpath.symm, fun hvalid => ?_, fun hinvalid => ?_⟩
  · have hbytes : ¬ (false = true ∨ validRequestPath (bytes p) = false) := by
      simp [hpath.mpr hvalid]
    have hascii : IsAscii p := by
      simp only [StaticIndex.validateRequestPath, Except.bind_eq_ok, segments_eq_ok] at hvalid
      obtain ⟨_, ⟨hascii, -⟩, -⟩ := hvalid
      exact hascii
    unfold Index.resolve StaticIndex.expectedStaticResponse
    rw [if_neg hmethod, if_neg hbytes, hvalid, lookup_routes]
    dsimp only [StaticIndex.verified]
    cases hroute : (StaticIndex.routes m).lookup p with
    | some file => exact ⟨_, rfl, agrees_file sha256 hash file method p _⟩
    | none =>
      have hfallback : (newIndex m).fallback = m.fallback.map fun fallback =>
          ((newIndex m).routes.lookup (bytes fallback.target)).getD File.zero := rfl
      rw [hfallback]
      cases hdeclared : m.fallback with
      | none => exact ⟨_, rfl, agrees_notFound sha256 hash method p⟩
      | some fallback =>
        obtain ⟨-, file, hfile, htarget, -⟩ :=
          ((index_validate_ok m).mp hindex).fallback fallback hdeclared
        obtain ⟨found, hfound⟩ := exists_lookup_of_listed hfile
        rw [htarget] at hfound
        simp only [Option.map_some, lookup_routes, hfound, Option.getD_some, dot_mem_lastSegment hascii]
        split
        · exact ⟨_, rfl, agrees_file sha256 hash found method p _⟩
        · exact ⟨_, rfl, agrees_notFound sha256 hash method p⟩
  · have hbytes : validRequestPath (bytes p) = false := by
      rw [← Bool.not_eq_true, hpath]
      exact hinvalid
    constructor
    · simp [Index.resolve, hmethod, hbytes]
    · unfold StaticIndex.expectedStaticResponse
      cases hresult : StaticIndex.validateRequestPath p with
      | ok u => exact absurd hresult hinvalid
      | error text => exact ⟨text, rfl⟩

end

/-- A site of one document. -/
def oneFileSite : Manifest where
  fallback := some ⟨fallbackKind, indexPath⟩
  files := [⟨List.replicate 64 'a', 5, htmlType, indexPath⟩]
  handler := handlerVersion
  schema := manifestSchema
  schemaVersion := 1

theorem resolve_is_expected_root : StaticIndex.validate oneFileSite = .ok () ∧
    StaticIndex.validateRequestPath ['/'] = .ok () ∧
    ∃ e, StaticIndex.expectedStaticResponse (fun _ => []) (fun _ => []) (StaticIndex.verified oneFileSite)
        .get ['/'] = .ok e ∧
      Agrees (fun _ => []) (fun _ => []) ((newIndex oneFileSite).resolve "GET" (bytes ['/']) false) e := by
  have hsite : StaticIndex.validate oneFileSite = .ok () := by decide
  have hpath : StaticIndex.validateRequestPath ['/'] = .ok () := by decide
  exact ⟨hsite, hpath, (resolve_is_expected (fun _ => []) (fun _ => []) oneFileSite hsite .get ['/']).2.1 hpath⟩

end Static

end Misscomputer
