import Misscomputer.Static.Cache
import Mathlib.Algebra.Order.Ring.Int
import Mathlib.Logic.Function.Iterate

set_option relaxedAutoImplicit false
set_option autoImplicit false

/-!
# Sending a static body

The body of a file comes from a source that need not be trusted. It is hashed while it is sent, and the chunk
that was read last is held back until the length and the digest are those of the manifest. One byte past the
listed size is read, so that a longer body is noticed.

## Main definitions

* `Static.Reader` — what each read of a body returns.
* `Static.stream` — `streamVerified` after some reads.
* `Static.SoundAt` — a body is complete only when it is verified, and an error leaves it incomplete.
* `Static.SplitsAtSize` — the reads of a body split it exactly at its listed size, and go on.
* `Static.writeResponse`, `Static.Handler.serveHTTP` — the response to a request, as it is sent.

## Main results

* `Static.chunked_stream` — what the loop holds, has hashed and has written after any number of reads.
* `Static.stream_sound_iff` — from which sources no complete wrong body is sent.
* `Static.serveHTTP_whole` — a reply that is not cut off is the whole resolved response, or the refusal.

## References

* `pkg/static/serve.go`
* `pkg/static/cache.go` (`chunkSize`)
-/

namespace Misscomputer

namespace Static

open StaticCache (Sha sha256 verifies)

/-! ## Readers -/

/-- What a read returns next to its bytes. -/
inductive ReadEnd
  /-- No error. -/
  | more
  /-- `io.EOF`. -/
  | eof
  /-- Another error. -/
  | failed
deriving DecidableEq

/-- What a read returns. -/
structure Read where
  chunk : List UInt8
  ending : ReadEnd

/-- `io.Reader`: what each read returns for the room it is given. -/
structure Reader where
  read : ℕ → ℕ → Read
  fits : ∀ i room, (read i room).chunk.length ≤ room

/-- `chunkSize`. -/
def chunkSize : ℕ := 32768

/-- `io.LimitedReader.Read` into the buffer of the loop, with `left` bytes to go. -/
def limitedRead (reader : Reader) (left : ℤ) (reads : ℕ) : Read :=
  if left ≤ 0 then ⟨[], .eof⟩ else reader.read reads (min chunkSize left.toNat)

lemma length_limitedRead_le (reader : Reader) (left : ℤ) (reads : ℕ) :
    ((limitedRead reader left reads).chunk.length : ℤ) ≤ max left 0 := by
  unfold limitedRead
  split
  · simp
  · have hfits := reader.fits reads (min chunkSize left.toNat)
    omega

/-! ## The loop -/

/-- The errors of `streamVerified` with a writer that never fails. -/
inductive BodyError
  /-- `ErrBodyCorrupted`. -/
  | corrupted
  /-- `ErrBodyCorrupted`, joined with the error of a read. -/
  | unread
deriving DecidableEq

/-- The variables of the loop, and what the writer got. -/
structure Stream where
  /-- The reads so far. -/
  reads : ℕ
  /-- What the limited reader has left. -/
  left : ℤ
  /-- `held`. -/
  held : Option (List UInt8)
  /-- What was written to `hash`. -/
  hashed : List UInt8
  /-- `total`. -/
  total : ℕ
  /-- What was written to the client. -/
  written : List UInt8
  /-- What was returned. -/
  result : Option (Except BodyError Unit)

/-- Before the loop. -/
def Stream.start (size : ℤ) : Stream := ⟨0, size + 1, none, [], 0, [], none⟩

/-- A chunk is hashed and held, and the chunk that was held is written. -/
def Stream.take (s : Stream) (chunk : List UInt8) : Stream :=
  if chunk = [] then s
  else { s with
    written := s.written ++ s.held.getD []
    held := some chunk
    hashed := s.hashed ++ chunk
    total := s.total + chunk.length }

/-- After the loop. -/
def Stream.finish (s : Stream) (sha : Sha) (size : ℤ) : Stream :=
  if (s.total : ℤ) ≠ size ∨ sha256 s.hashed ≠ sha then { s with result := some (.error .corrupted) }
  else { s with written := s.written ++ s.held.getD [], result := some (.ok ()) }

/-- One turn of the loop. -/
def Stream.step (reader : Reader) (sha : Sha) (size : ℤ) (s : Stream) : Stream :=
  match s.result with
  | some _ => s
  | none =>
    let read := limitedRead reader s.left s.reads
    let s := { s with reads := s.reads + 1, left := s.left - read.chunk.length }.take read.chunk
    match read.ending with
    | .more => s
    | .eof => s.finish sha size
    | .failed => { s with result := some (.error .unread) }

/-- `streamVerified` after `n` turns of its loop. -/
def stream (reader : Reader) (sha : Sha) (size : ℤ) (n : ℕ) : Stream :=
  (Stream.step reader sha size)^[n] (.start size)

/-! ## The chunks of a body -/

/-- The chunks that were read of a body, and whether reading has ended. -/
structure Delivered where
  chunks : List (List UInt8)
  ended : Bool

/-- What the first `n` reads of a body deliver, up to one byte past the size. -/
def delivered (reader : Reader) (size : ℤ) : ℕ → Delivered
  | 0 => ⟨[], false⟩
  | n + 1 =>
    let d := delivered reader size n
    if d.ended then d
    else
      let read := limitedRead reader (size + 1 - d.chunks.flatten.length) n
      ⟨if read.chunk = [] then d.chunks else d.chunks ++ [read.chunk], read.ending ≠ .more⟩

/-- The reads of a body split it exactly at its listed size, and go on: one of them ends at the size, and a later
one delivers another byte. -/
def SplitsAtSize (reader : Reader) (size : ℤ) : Prop :=
  ∃ n chunks chunk, (delivered reader size n).chunks = chunks ++ [chunk] ∧ (chunks.flatten.length : ℤ) = size

variable {reader : Reader} {sha : Sha} {size : ℤ} {n : ℕ}

lemma delivered_of_ended (h : (delivered reader size n).ended = true) :
    delivered reader size (n + 1) = delivered reader size n := by
  rw [delivered]
  simp only [h, if_true]

/-- No chunk is empty, and there is at most one byte past the size. -/
lemma delivered_bounds (reader : Reader) (hsize : 0 ≤ size) (n : ℕ) :
    (∀ chunk ∈ (delivered reader size n).chunks, chunk ≠ []) ∧
      ((delivered reader size n).chunks.flatten.length : ℤ) ≤ size + 1 := by
  induction n with
  | zero => exact ⟨by simp [delivered], by simp [delivered]; omega⟩
  | succ n ih =>
    obtain ⟨hne, hlength⟩ := ih
    rw [delivered]
    dsimp only
    split
    · exact ⟨hne, hlength⟩
    · have hread := length_limitedRead_le reader (size + 1 - (delivered reader size n).chunks.flatten.length) n
      split
      · exact ⟨hne, hlength⟩
      · rename_i hchunk
        constructor
        · intro chunk hmem
          rcases List.mem_append.mp hmem with hmem | hmem
          · exact hne chunk hmem
          · rw [List.mem_singleton.mp hmem]
            exact hchunk
        · rw [List.flatten_append, List.length_append, List.flatten_singleton]
          omega

/-! ## The loop and the chunks -/

/-- The loop holds the last chunk, has hashed all of them, and has written all but the last, unless it has
verified them. -/
structure Chunked (sha : Sha) (size : ℤ) (n : ℕ) (d : Delivered) (s : Stream) : Prop where
  left : s.left = size + 1 - d.chunks.flatten.length
  held : s.held = d.chunks.getLast?
  hashed : s.hashed = d.chunks.flatten
  total : s.total = d.chunks.flatten.length
  running : d.ended = false → s.reads = n ∧ s.result = none ∧ s.written = d.chunks.dropLast.flatten
  ended : d.ended = true →
    (s.result = some (.ok ()) ∧ verifies sha size s.written ∧ s.written = d.chunks.flatten) ∨
      ∃ e, s.result = some (.error e) ∧ s.written = d.chunks.dropLast.flatten

/-- All chunks are the last one behind the others. -/
lemma flatten_dropLast_append (chunks : List (List UInt8)) :
    chunks.dropLast.flatten ++ chunks.getLast?.getD [] = chunks.flatten := by
  rcases List.eq_nil_or_concat chunks with rfl | ⟨before, chunk, rfl⟩
  · rfl
  · simp

lemma chunked_start (sha : Sha) (size : ℤ) : Chunked sha size 0 ⟨[], false⟩ (.start size) where
  left := by simp [Stream.start]
  held := rfl
  hashed := rfl
  total := rfl
  running := fun _ => ⟨rfl, rfl, rfl⟩
  ended := fun h => absurd h (by decide)

/-- What the loop has after it took a chunk. -/
lemma Chunked.take {d : Delivered} {s : Stream} (h : Chunked sha size n d s) (hrunning : d.ended = false)
    (chunk : List UInt8) :
    let s' := { s with reads := s.reads + 1, left := s.left - chunk.length }.take chunk
    let chunks := if chunk = [] then d.chunks else d.chunks ++ [chunk]
    Chunked sha size (n + 1) ⟨chunks, false⟩ s' := by
  obtain ⟨hreads, hresult, hwritten⟩ := h.running hrunning
  dsimp only
  by_cases hchunk : chunk = []
  · subst hchunk
    simp only [Stream.take, if_true, List.length_nil, Nat.cast_zero, sub_zero]
    exact ⟨h.left, h.held, h.hashed, h.total, fun _ => ⟨by rw [hreads], hresult, hwritten⟩, fun h => absurd h (by simp)⟩
  · simp only [Stream.take, if_neg hchunk]
    refine ⟨?_, ?_, ?_, ?_, fun _ => ⟨by rw [hreads], hresult, ?_⟩, fun h => absurd h (by simp)⟩
    · dsimp only
      rw [h.left, List.flatten_append, List.length_append, List.flatten_singleton]
      omega
    · rw [List.getLast?_concat]
    · rw [h.hashed, List.flatten_append, List.flatten_singleton]
    · rw [h.total, List.flatten_append, List.length_append, List.flatten_singleton]
    · rw [hwritten, h.held, List.dropLast_concat, flatten_dropLast_append]

/-- What the loop has after the end of the body. -/
lemma Chunked.finish {chunks : List (List UInt8)} {s : Stream} (h : Chunked sha size n ⟨chunks, false⟩ s) :
    Chunked sha size n ⟨chunks, true⟩ (s.finish sha size) := by
  obtain ⟨-, -, hwritten⟩ := h.running rfl
  unfold Stream.finish
  split
  · exact ⟨h.left, h.held, h.hashed, h.total, fun hfalse => absurd hfalse (by simp), fun _ => .inr ⟨_, rfl, hwritten⟩⟩
  · rename_i hverified
    have hall : s.written ++ s.held.getD [] = chunks.flatten := by
      rw [hwritten, h.held]
      exact flatten_dropLast_append chunks
    rw [not_or, not_not, not_not, h.total, h.hashed] at hverified
    refine ⟨h.left, h.held, h.hashed, h.total, fun hfalse => absurd hfalse (by simp), fun _ => .inl ⟨rfl, ?_, hall⟩⟩
    change verifies sha size (s.written ++ s.held.getD [])
    rw [hall]
    exact hverified

/-- **The loop after any number of turns**: it holds the last chunk of the body, and has written the others. -/
theorem chunked_stream (reader : Reader) (sha : Sha) (size : ℤ) (n : ℕ) :
    Chunked sha size n (delivered reader size n) (stream reader sha size n) := by
  induction n with
  | zero => exact chunked_start sha size
  | succ n ih =>
    rw [stream, Function.iterate_succ_apply', ← stream]
    by_cases hended : (delivered reader size n).ended = true
    · -- nothing happens once the loop has ended
      have hresult : ∃ r, (stream reader sha size n).result = some r := by
        rcases ih.ended hended with ⟨hok, -⟩ | ⟨e, herror, -⟩
        · exact ⟨_, hok⟩
        · exact ⟨_, herror⟩
      obtain ⟨r, hresult⟩ := hresult
      rw [delivered_of_ended hended, Stream.step, hresult]
      exact ⟨ih.left, ih.held, ih.hashed, ih.total, fun hrunning => absurd hended (by simp [hrunning]), ih.ended⟩
    · rw [Bool.not_eq_true] at hended
      obtain ⟨hreads, hresult, -⟩ := ih.running hended
      have htake := ih.take hended (limitedRead reader (stream reader sha size n).left n).chunk
      rw [delivered, Stream.step, hresult]
      simp only [hended, Bool.false_eq_true, if_false, hreads]
      rw [hreads, hresult, ih.left] at htake
      rw [ih.left]
      generalize limitedRead reader (size + 1 - (delivered reader size n).chunks.flatten.length) n = read at htake ⊢
      obtain ⟨chunk, ending⟩ := read
      cases ending with
      | more => exact htake
      | eof => exact htake.finish
      | failed =>
        obtain ⟨-, -, hwritten⟩ := htake.running rfl
        exact ⟨htake.left, htake.held, htake.hashed, htake.total, fun hfalse => absurd hfalse (by simp),
          fun _ => .inr ⟨_, rfl, hwritten⟩⟩

/-! ## Soundness -/

/-- A body is complete only when it is verified: success comes after all of it and nothing else was written, and
an error leaves it incomplete. -/
structure SoundAt (s : Stream) (sha : Sha) (size : ℤ) : Prop where
  verified : s.result = some (.ok ()) → verifies sha size s.written
  withheld : ∀ e, s.result = some (.error e) → (s.written.length : ℤ) < size

/-- A loop that has read a byte past the size ends with an error at the next turn. -/
lemma exists_error (sha : Sha) (h : (delivered reader size n).chunks.flatten.length = size + 1) :
    ∃ e, (stream reader sha size (n + 1)).result = some (.error e) ∧
      (stream reader sha size (n + 1)).written = (delivered reader size n).chunks.dropLast.flatten := by
  have hlength : ∀ {b : List UInt8}, b = (delivered reader size n).chunks.flatten → ¬ verifies sha size b := by
    rintro b rfl ⟨hsize, -⟩
    omega
  have hchunks : (delivered reader size (n + 1)).chunks = (delivered reader size n).chunks ∧
      (delivered reader size (n + 1)).ended = true := by
    by_cases hended : (delivered reader size n).ended = true
    · rw [delivered_of_ended hended]
      exact ⟨rfl, hended⟩
    · rw [delivered]
      simp only [hended, h, sub_self, limitedRead, le_refl, if_true]
      simp
  have hchunked := chunked_stream reader sha size (n + 1)
  rcases hchunked.ended hchunks.2 with ⟨-, hverified, hwritten⟩ | ⟨e, herror, hwritten⟩
  · exact absurd hverified (hlength (by rw [hwritten, hchunks.1]))
  · exact ⟨e, herror, by rw [hwritten, hchunks.1]⟩

/-- **No complete wrong body is sent, unless the source splits it at its size**: every error leaves a body
incomplete exactly when no read ends at the listed size with another byte behind it.

**Proof sketch.** At an error all chunks but the last were written, and all together are at most one byte longer
than listed. So as many bytes as listed were written exactly when the last chunk is the byte past the size. -/
theorem stream_sound_iff (reader : Reader) (sha : Sha) (size : ℤ) (hsize : 1 ≤ size) :
    (∀ n, SoundAt (stream reader sha size n) sha size) ↔ ¬ SplitsAtSize reader size := by
  constructor
  · rintro hsound ⟨n, chunks, chunk, hchunks, hlength⟩
    obtain ⟨hne, hmost⟩ := delivered_bounds reader (by omega : 0 ≤ size) n
    have hchunk : 0 < chunk.length := List.length_pos_iff.mpr (hne chunk (by simp [hchunks]))
    have hall : ((delivered reader size n).chunks.flatten.length : ℤ) = size + 1 := by
      rw [hchunks, List.flatten_append, List.length_append, List.flatten_singleton] at hmost ⊢
      omega
    obtain ⟨e, herror, hwritten⟩ := exists_error sha hall
    have hless := (hsound (n + 1)).withheld e herror
    rw [hwritten, hchunks, List.dropLast_concat, hlength] at hless
    exact lt_irrefl _ hless
  · intro hsplit n
    have hchunked := chunked_stream reader sha size n
    obtain ⟨hne, hmost⟩ := delivered_bounds reader (by omega : 0 ≤ size) n
    by_cases hended : (delivered reader size n).ended = true
    · rcases hchunked.ended hended with ⟨hok, hverified, -⟩ | ⟨e, herror, hwritten⟩
      · refine ⟨fun _ => hverified, fun e h => ?_⟩
        rw [hok] at h
        cases h
      · refine ⟨fun h => ?_, fun _ _ => ?_⟩
        · rw [herror] at h
          cases h
        rw [hwritten]
        rcases List.eq_nil_or_concat (delivered reader size n).chunks with hnil | ⟨chunks, chunk, hconcat⟩
        · rw [hnil]
          exact hsize
        · rw [List.concat_eq_append] at hconcat
          have hchunk : 0 < chunk.length := List.length_pos_iff.mpr (hne chunk (by simp [hconcat]))
          have hnot : (chunks.flatten.length : ℤ) ≠ size := fun h => hsplit ⟨n, chunks, chunk, hconcat, h⟩
          rw [hconcat, List.flatten_append, List.length_append, List.flatten_singleton] at hmost
          rw [hconcat, List.dropLast_concat]
          omega
    · rw [Bool.not_eq_true] at hended
      obtain ⟨-, hresult, -⟩ := hchunked.running hended
      refine ⟨fun h => ?_, fun e h => ?_⟩
      · rw [hresult] at h
        cases h
      · rw [hresult] at h
        cases h

namespace Sample

/-- A reader that hands out texts, one at each read, and then ends. -/
def handingOut (texts : List (List UInt8)) : Reader where
  read i room := if i < texts.length then ⟨(texts.getD i []).take room, .more⟩ else ⟨[], .eof⟩
  fits i room := by
    split
    · exact List.length_take_le _ _
    · exact Nat.zero_le _

end Sample

/-- A body of the listed bytes. -/
theorem stream_sound_sample :
    (∀ n, SoundAt (stream (Sample.handingOut [[104, 105]]) (sha256 [104, 105]) 2 n) (sha256 [104, 105]) 2) ↔
      ¬ SplitsAtSize (Sample.handingOut [[104, 105]]) 2 :=
  stream_sound_iff (Sample.handingOut [[104, 105]]) (sha256 [104, 105]) 2 (by decide)

/-- **Two wrong bytes and a third**: both listed bytes are sent before the loop returns its error. -/
theorem wrong_body_completed :
    (stream (Sample.handingOut [[110, 111], [33]]) (sha256 [104, 105]) 2 3).written = [110, 111] ∧
      [110, 111] ≠ ([104, 105] : List UInt8) ∧
      ¬ ∀ n, SoundAt (stream (Sample.handingOut [[110, 111], [33]]) (sha256 [104, 105]) 2 n) (sha256 [104, 105]) 2 := by
  have hresult : (stream (Sample.handingOut [[110, 111], [33]]) (sha256 [104, 105]) 2 3).result =
      some (.error .corrupted) := rfl
  refine ⟨rfl, by decide, fun hsound => ?_⟩
  exact absurd ((hsound 3).withheld _ hresult) (by decide)

/-! ## Responses -/

/-- `unavailableBody`. -/
def unavailableBody : List UInt8 := Text.bytes "Service Unavailable\n".toList

/-- `misdirectedBody`. -/
def misdirectedBody : List UInt8 := Text.bytes "Misdirected Request\n".toList

/-- `Unavailable`. -/
def unavailable (method : String) : Response := ⟨503, none, unavailableBody, method = "HEAD"⟩

/-- `Misdirected`. -/
def misdirected (method : String) : Response := ⟨421, none, misdirectedBody, method = "HEAD"⟩

/-- What `WriteResponse` did: the status line and the headers, once they are sent, the body, and its result once it
has returned. -/
structure Writing where
  head : Option (ℕ × List (List Char × List Char))
  body : List UInt8
  result : Option (Except BodyError Unit)

/-- `WriteResponse` without extra headers, after `n` turns of the loop over the body; `bodies` is `BodySource.Open`. -/
def writeResponse (response : Response) (bodies : File → Option Reader) (n : ℕ) : Writing :=
  match response.file with
  | none => ⟨some (response.status, response.header), if response.head then [] else response.fixed, some (.ok ())⟩
  | some file =>
    match bodies file with
    | none => ⟨none, [], some (.error .unread)⟩
    | some reader =>
      if response.head then ⟨some (response.status, response.header), [], some (.ok ())⟩
      else
        let s := stream reader file.bodySha256 file.contentLength n
        ⟨some (response.status, response.header), s.written, s.result⟩

/-- A response that was written: its status line, its headers, and a body with the announced length and the
digest that an attestation of the response names. -/
structure Wrote (response : Response) (w : Writing) : Prop where
  head : w.head = some (response.status, response.header)
  empty : response.head = true → w.body = []
  length : response.head = false → (w.body.length : ℤ) = response.contentLength
  digest : sha256 w.body = response.bodySha256 sha256

/-- **A result without an error means that the response was written.** -/
lemma wrote_of_ok {response : Response} {bodies : File → Option Reader}
    (h : (writeResponse response bodies n).result = some (.ok ())) : Wrote response (writeResponse response bodies n) := by
  unfold writeResponse at h ⊢
  cases hfile : response.file with
  | none =>
    cases hhead : response.head with
    | true => exact ⟨rfl, fun _ => rfl, by simp [hhead], by simp [Response.bodySha256, hhead]⟩
    | false =>
      exact ⟨rfl, by simp [hhead], by simp [Response.contentLength, hfile], by simp [Response.bodySha256, hhead, hfile]⟩
  | some file =>
    rw [hfile] at h
    dsimp only at h ⊢
    cases hopen : bodies file with
    | none =>
      rw [hopen] at h
      cases h
    | some reader =>
      rw [hopen] at h
      dsimp only at h ⊢
      cases hhead : response.head with
      | true => exact ⟨rfl, fun _ => rfl, by simp [hhead], by simp [Response.bodySha256, hhead]⟩
      | false =>
        rw [hhead] at h
        simp only [Bool.false_eq_true, if_false] at h ⊢
        have hchunked := chunked_stream reader file.bodySha256 file.contentLength n
        have hended : (delivered reader file.contentLength n).ended = true := by
          by_contra hrunning
          obtain ⟨-, hnone, -⟩ := hchunked.running (by simpa using hrunning)
          rw [hnone] at h
          cases h
        rcases hchunked.ended hended with ⟨-, ⟨hlength, hdigest⟩, -⟩ | ⟨e, herror, -⟩
        · exact ⟨rfl, by simp [hhead], fun _ => by simpa [Response.contentLength, hfile] using hlength,
            by simpa [Response.bodySha256, hhead, hfile] using hdigest⟩
        · rw [herror] at h
          cases h

/-! ## The handler -/

/-- What the handler reads of a request. -/
structure Request where
  method : String
  host : List Char
  requestURI : List UInt8
  /-- `URL.EscapedPath()`. -/
  escapedPath : List UInt8
  contentLength : ℤ
  transferEncoding : List String
  /-- The header of that name. -/
  transferEncodingHeader : String

/-- `RawRequestPath`. -/
def rawRequestPath (req : Request) : List UInt8 × Bool :=
  let target := if req.requestURI = [] then req.escapedPath else req.requestURI
  let target := target.takeWhile (· ≠ 0x3f)
  (target, target.head? = some 0x2f)

/-- `HasBody`. -/
def hasBody (req : Request) : Bool :=
  0 < req.contentLength || req.transferEncoding ≠ [] || req.transferEncodingHeader ≠ ""

/-- `Handler`; `lower` is `strings.ToLower`. -/
structure Handler where
  index : Index
  bodies : File → Option Reader
  routeHost : List Char
  lower : List Char → List Char

/-- `NormalizeHost`. -/
def normalizeHost (lower : List Char → List Char) (host : List Char) : List Char :=
  if ":443".toList <:+ lower host then (lower host).take ((lower host).length - 4) else lower host

/-- `ResolveRequest`. -/
def resolveRequest (h : Handler) (req : Request) (rawPath : List UInt8) : Response :=
  if h.routeHost ≠ [] ∧ normalizeHost h.lower req.host ≠ h.routeHost then misdirected req.method
  else h.index.resolve req.method rawPath (hasBody req)

/-- The response `ServeHTTP` picks for a request that got a slot. -/
def Handler.respond (h : Handler) (req : Request) : Response :=
  if (rawRequestPath req).2 then resolveRequest h req (rawRequestPath req).1
  else if req.method ≠ "GET" ∧ req.method ≠ "HEAD" then h.index.resolve req.method [] false
  else ⟨400, none, badRequestBody, req.method = "HEAD"⟩

/-- What a client sees of a request. -/
structure Served where
  writing : Writing
  /-- `panic(http.ErrAbortHandler)`: the connection is cut. -/
  aborted : Bool

/-- `ServeHTTP`, after `n` turns of the loop over the body; `slot` is whether a slot was free. -/
def Handler.serveHTTP (h : Handler) (req : Request) (slot : Bool) (n : ℕ) : Served :=
  if slot then
    let w := writeResponse (h.respond req) h.bodies n
    match w.result with
    | some (.error _) =>
      if w.head.isSome then ⟨w, true⟩ else ⟨writeResponse (unavailable req.method) h.bodies n, false⟩
    | _ => ⟨w, false⟩
  else ⟨writeResponse (unavailable req.method) h.bodies n, false⟩

/-- **A reply that ends without a cut connection is whole.** It is the refusal of an overloaded server, or the
response the index resolves: with its status and headers, a body of the announced length, and the digest that an
attestation of the response names.

**Proof sketch.** A result of `WriteResponse` is an error or means that the response was written. After an error
the connection is cut, or nothing was sent and the refusal is written, which has no file and cannot fail. -/
theorem serveHTTP_whole (h : Handler) (req : Request) (slot : Bool) (n : ℕ) :
    (h.serveHTTP req slot n).writing.result ≠ none → (h.serveHTTP req slot n).aborted = false →
      Wrote (unavailable req.method) (h.serveHTTP req slot n).writing ∨
        slot = true ∧ Wrote (h.respond req) (h.serveHTTP req slot n).writing := by
  intro hreturned hwhole
  have hrefusal : Wrote (unavailable req.method) (writeResponse (unavailable req.method) h.bodies n) := wrote_of_ok rfl
  unfold Handler.serveHTTP at hreturned hwhole ⊢
  cases slot with
  | false => exact .inl hrefusal
  | true =>
    simp only [if_true] at hreturned hwhole ⊢
    cases hresult : (writeResponse (h.respond req) h.bodies n).result with
    | none =>
      rw [hresult] at hreturned
      exact absurd hresult hreturned
    | some result =>
      cases result with
      | ok u => exact .inr ⟨trivial, wrote_of_ok hresult⟩
      | error e =>
        rw [hresult] at hwhole
        dsimp only at hwhole ⊢
        split at hwhole
        · cases hwhole
        · rename_i hsent
          rw [if_neg hsent]
          exact .inl hrefusal

namespace Sample

/-- A server of the site of one document, whose body cannot be opened. -/
def handler : Handler where
  index := newIndex oneFileSite
  bodies := fun _ => none
  routeHost := []
  lower := lower

/-- A request that is no `GET` and no `HEAD`. -/
def request : Request where
  method := "POST"
  host := "site.example".toList
  requestURI := Text.bytes "/absent.html?x".toList
  escapedPath := []
  contentLength := 0
  transferEncoding := []
  transferEncodingHeader := ""

lemma respond_request : handler.respond request = ⟨405, none, methodNotAllowedBody, false⟩ := by
  unfold Handler.respond
  split
  · simp [resolveRequest, handler, request, Index.resolve]
  · simp [request, Index.resolve]

lemma serve_request : handler.serveHTTP request true 0 =
    ⟨writeResponse ⟨405, none, methodNotAllowedBody, false⟩ (fun _ => none) 0, false⟩ := by
  simp only [Handler.serveHTTP, respond_request, if_true]
  rfl

end Sample

/-- The reply to a request of another method. -/
theorem serveHTTP_whole_sample :
    Wrote (unavailable "POST") (Sample.handler.serveHTTP Sample.request true 0).writing ∨
      true = true ∧ Wrote (Sample.handler.respond Sample.request)
        (Sample.handler.serveHTTP Sample.request true 0).writing :=
  serveHTTP_whole Sample.handler Sample.request true 0 (by simp [Sample.serve_request, writeResponse])
    (by rw [Sample.serve_request])

end Static

end Misscomputer
